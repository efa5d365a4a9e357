import Troubleshoot.Text.Ranges

namespace Troubleshoot.Text

-- The code points with the property White_Space.
def blanks : Ranges :=
  [(0x9, 0xd), (0x20, 0x20), (0x85, 0x85), (0xa0, 0xa0), (0x1680, 0x1680), (0x2000, 0x200a),
    (0x2028, 0x2029), (0x202f, 0x202f), (0x205f, 0x205f), (0x3000, 0x3000)]

def isBlank (c : Char) : Bool :=
  blanks.has c

-- The text without the blanks at its two ends.
def trimmed (cs : List Char) : List Char :=
  (cs.dropWhile isBlank).reverse.dropWhile isBlank |>.reverse

def trim (s : String) : String :=
  .ofList (trimmed s.toList)

theorem toList_trim (s : String) : (trim s).toList = trimmed s.toList := by
  simp [trim]

end Troubleshoot.Text
