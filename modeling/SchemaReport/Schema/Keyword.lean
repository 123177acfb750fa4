/-! The keywords a schema may use. A keyword is the word before the first colon of a line;
all but one may stand with or without a list marker. -/
namespace SchemaReport.Schema

/-- The directives of a schema. `columnDescription` opens a column and `name` closes it;
`primaryKeys` ends the table. -/
inductive Keyword
  | tableName
  | tableDescription
  | columnDescription
  | type
  | length
  | nullable
  | name
  | primaryKeys
  deriving DecidableEq, Repr

namespace Keyword

def all : List Keyword :=
  [tableName, tableDescription, columnDescription, type, length, nullable, name, primaryKeys]

/-- The word as schema files spell it. The description of the table lacks a letter there. -/
def word : Keyword → String
  | tableName => "table-name"
  | tableDescription => "descripion"
  | columnDescription => "description"
  | type => "type"
  | length => "length"
  | nullable => "nullable"
  | name => "name"
  | primaryKeys => "primary-keys"

/-- Only a list item can describe a column. -/
def needsMarker : Keyword → Bool
  | columnDescription => true
  | _ => false

/-- The keyword as messages show it, with the marker it needs. -/
def label (k : Keyword) : String := if k.needsMarker then "-" ++ k.word else k.word

/-- Whether the keyword may stand in a line with or without a list marker. -/
def allowed (marked : Bool) (k : Keyword) : Bool := marked || !k.needsMarker

/-- The keyword a key spells, letter for letter. -/
def ofKey? (marked : Bool) (key : List Char) : Option Keyword :=
  all.find? fun k => k.word.toList == key && k.allowed marked

theorem mem_all (k : Keyword) : k ∈ all := by cases k <;> decide

theorem ofKey?_eq_some_iff {marked : Bool} {key : List Char} {k : Keyword} :
    ofKey? marked key = some k ↔ key = k.word.toList ∧ k.allowed marked = true := by
  unfold ofKey?
  constructor
  · intro h
    have := List.find?_some h
    simp only [Bool.and_eq_true, beq_iff_eq] at this
    exact ⟨this.1.symm, this.2⟩
  · rintro ⟨rfl, h⟩
    revert h
    cases k <;> cases marked <;> decide

end Keyword
end SchemaReport.Schema
