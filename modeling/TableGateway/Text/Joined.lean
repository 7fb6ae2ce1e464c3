/-!
# Lists of texts

Entries written one after the other with a separator between them.
-/

namespace TableGateway

/-- Entries with a separator between them. -/
def joinWith (sep : String) : List String → String
  | [] => ""
  | [item] => item
  | item :: rest => item ++ sep ++ joinWith sep rest

end TableGateway
