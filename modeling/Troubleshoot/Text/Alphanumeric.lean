import Troubleshoot.Text.Alphanumeric.Table

namespace Troubleshoot.Text

def isAlphanumeric (c : Char) : Bool :=
  alphanumericRanges.has c

end Troubleshoot.Text
