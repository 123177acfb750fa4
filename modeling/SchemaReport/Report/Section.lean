import SchemaReport.Column
import SchemaReport.Settings

/-! The sections of a report and the entries a column has in them. Five sections have one
entry for every column; the other two belong to the table. -/
namespace SchemaReport

/-- The sections of a report. -/
inductive Section
  | tableName
  | primaryKeys
  | struct
  | json
  | validation
  | assignment
  | doc
  deriving DecidableEq, Repr

namespace Section

/-- The sections in the order of a report. -/
def all : List Section := [tableName, primaryKeys, struct, json, validation, assignment, doc]

def header : Section → String
  | tableName => "*表名"
  | primaryKeys => "*主键序列"
  | struct => "*结构体定义"
  | json => "*对应的json字符串"
  | validation => "*数据校验"
  | assignment => "*初始化对象时给字段赋值用"
  | doc => "*给前端的接口文档用(入参以及出参字段说明)"

end Section

namespace Entry

/-- The line that names a table. -/
def tableName (description : String) : String := "\t" ++ description ++ "\n"

/-- The lines that open the struct of a table. -/
def structHead (description structName : String) : String :=
  "\t//" ++ description ++ "\n\ttype " ++ structName ++ " struct \x7b\n"

/-- The struct field of a column. -/
def field (c : Column) : String :=
  "\t\t" ++ c.structName ++ "\t" ++ c.columnType.goType ++ "\t\x60json:\"" ++ c.jsonName ++
    "\"\x60\t//" ++ c.chineseName ++ "\n"

/-- The JSON member of a column, without a separator. -/
def member (c : Column) : String :=
  "\t\t\t\"" ++ c.jsonName ++ "\":" ++ c.columnType.placeholder

/-- A truth value as the generated code writes it. -/
def truth (b : Bool) : String := if b then "true" else "false"

/-- The validation call of a column. -/
def check (names : RenderSettings) (c : Column) : String :=
  "\t" ++ names.checkCall ++ "(" ++ names.checkReceiver ++ "." ++ c.structName ++ ", \"" ++
    c.chineseName ++ "\", " ++ c.length.text ++ ", " ++ truth c.fixedLength ++ ", " ++
    truth c.nullable ++ ")\n"

/-- The assignment of a column. -/
def assignment (names : RenderSettings) (c : Column) : String :=
  "\t" ++ c.structName ++ ": " ++ names.assignSource ++ "." ++ c.structName ++ ", //" ++
    c.chineseName ++ "\n"

/-- The documentation row of a column. -/
def doc (c : Column) : String := "\t" ++ c.jsonName ++ "\t\t" ++ c.chineseName ++ "\n"

end Entry
end SchemaReport
