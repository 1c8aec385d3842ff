/-!
# Searching

Whether a text holds another one.
-/

namespace HeaderBindings.Text

def holdsText (part : List Char) : List Char → Bool
  | [] => part.isEmpty
  | c :: rest => part.isPrefixOf (c :: rest) || holdsText part rest

end HeaderBindings.Text
