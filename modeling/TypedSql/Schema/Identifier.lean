/-!
# Quoted identifiers

Between double quotes any name is an identifier; a double quote inside it is
written twice.
-/

namespace TypedSql.Identifier

/-- The characters of a name as they stand between the quotes. -/
def doubleQuotes : List Char → List Char
  | [] => []
  | character :: rest =>
      if character = '"' then '"' :: '"' :: doubleQuotes rest
      else character :: doubleQuotes rest

def quote (name : String) : String :=
  String.ofList ('"' :: doubleQuotes name.toList ++ ['"'])

end TypedSql.Identifier
