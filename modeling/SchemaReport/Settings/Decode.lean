import SchemaReport.Settings
import SchemaReport.Settings.Document

/-! Settings from documents. Every section and every setting may be left out and then has
its default. A document that has something else where a setting belongs says nothing at
all. -/
namespace SchemaReport
open Document

/-- The choice a name stands for. -/
def MissingFields.ofName? (name : String) : Option MissingFields :=
  if name = "error" then some .error
  else if name = "inherit" then some .inherit
  else none

/-- A choice is its name, or a table with the name as its only key. -/
def MissingFields.ofDocument? (dialect : Dialect) : Document → Option MissingFields
  | .text name => ofName? name
  | .table [(name, value)] => if dialect.isBare value then ofName? name else none
  | _ => none

def InputSettings.ofDocument? (dialect : Dialect) (document : Document) : Option InputSettings := do
  match ← fields? dialect ["extension"] document with
  | [extension] => return ⟨← withDefault ({} : InputSettings).extension text? extension⟩
  | _ => none

/-- No directory can be asked for by `null`. -/
def directory? : Document → Option (Option String)
  | .null => some none
  | document => (text? document).map some

def OutputSettings.ofDocument? (dialect : Dialect) (document : Document) :
    Option OutputSettings := do
  match ← fields? dialect ["directory", "extension"] document with
  | [directory, extension] =>
    return ⟨← withDefault ({} : OutputSettings).directory directory? directory,
      ← withDefault ({} : OutputSettings).extension text? extension⟩
  | _ => none

def RenderSettings.ofDocument? (dialect : Dialect) (document : Document) :
    Option RenderSettings := do
  match ← fields? dialect ["check_call", "check_receiver", "assign_source"] document with
  | [checkCall, checkReceiver, assignSource] =>
    return ⟨← withDefault ({} : RenderSettings).checkCall text? checkCall,
      ← withDefault ({} : RenderSettings).checkReceiver text? checkReceiver,
      ← withDefault ({} : RenderSettings).assignSource text? assignSource⟩
  | _ => none

def ScanSettings.ofDocument? (dialect : Dialect) (document : Document) : Option ScanSettings := do
  match ← fields? dialect ["missing_fields", "float_keywords"] document with
  | [missingFields, floatKeywords] =>
    return ⟨← withDefault ({} : ScanSettings).missingFields (MissingFields.ofDocument? dialect)
        missingFields,
      ← withDefault ({} : ScanSettings).floatKeywords texts? floatKeywords⟩
  | _ => none

def BatchSettings.ofDocument? (dialect : Dialect) (document : Document) : Option BatchSettings := do
  match ← fields? dialect ["parallel"] document with
  | [parallel] => return ⟨← withDefault ({} : BatchSettings).parallel truth? parallel⟩
  | _ => none

def Settings.ofDocument? (dialect : Dialect) (document : Document) : Option Settings := do
  match ← fields? dialect ["input", "output", "render", "scan", "batch"] document with
  | [input, output, render, scan, batch] =>
    return ⟨← withDefault {} (InputSettings.ofDocument? dialect) input,
      ← withDefault {} (OutputSettings.ofDocument? dialect) output,
      ← withDefault {} (RenderSettings.ofDocument? dialect) render,
      ← withDefault {} (ScanSettings.ofDocument? dialect) scan,
      ← withDefault {} (BatchSettings.ofDocument? dialect) batch⟩
  | _ => none

end SchemaReport
