/-! The settings file a new project starts with. It says what the defaults are, so that
there is something to change. -/
namespace SchemaReport.Settings

/-- The text of a new settings file. -/
def template : String :=
  "# yamlstruct configuration\n" ++
  "# String values accept $\x7bVAR\x7d and $\x7bVAR:-default\x7d environment substitution.\n" ++
  "\n" ++
  "[input]\n" ++
  "# Extension of schema files picked up from a directory\n" ++
  "extension = \"yaml\"\n" ++
  "\n" ++
  "[output]\n" ++
  "# Reports are appended beside each schema unless a directory is set\n" ++
  "# directory = \"./generated\"\n" ++
  "extension = \"txt\"\n" ++
  "\n" ++
  "[render]\n" ++
  "# Validation lines read: <check_call>(<check_receiver>.Field, \"名称\", length, fixed, nullable)\n" ++
  "check_call = \"util.CheckParam\"\n" ++
  "check_receiver = \"structNeededToCheck\"\n" ++
  "# Assignment lines read: Field: <assign_source>.Field, //名称\n" ++
  "assign_source = \"dataSource\"\n" ++
  "\n" ++
  "[scan]\n" ++
  "# What to do when a column has no type, length or nullable directive:\n" ++
  "# \"error\" rejects the schema, \"inherit\" reuses the previous column's value\n" ++
  "missing_fields = \"error\"\n" ++
  "# A number column whose Chinese name contains one of these becomes float64\n" ++
  "float_keywords = [\"价\", \"金\", \"额\", \"系数\"]\n" ++
  "\n" ++
  "[batch]\n" ++
  "# Convert directory contents concurrently\n" ++
  "parallel = false\n"

end SchemaReport.Settings
