import Uncomment.Text.Basic

namespace Uncomment

inductive Edit
  | unchanged
  | changed (text : Text)
deriving DecidableEq, Repr

namespace Edit

def isChanged : Edit → Bool
  | unchanged => false
  | changed _ => true

def apply (before : Text) : Edit → Text
  | unchanged => before
  | changed after => after

end Edit

end Uncomment
