/-
  ClusterSession: text with nothing hidden.

  * `visible`: a text between quotation marks; quotation marks and reverse
    solidi in it are escaped, and hidden characters are written out as their
    codes.
-/
import ClusterSession.Text.Hidden

namespace ClusterSession.Text

def mark (c : Char) : List Char :=
  if c = '\x00' then ['\x5c', '0']
  else if c = '\t' then ['\x5c', 't']
  else if c = '\n' then ['\x5c', 'n']
  else if c = '\r' then ['\x5c', 'r']
  else if c = '\x22' then ['\x5c', '\x22']
  else if c = '\x5c' then ['\x5c', '\x5c']
  else if isHidden c then
    '\x5c' :: 'u' :: '\x7b' :: (Nat.toDigits 16 c.toNat ++ ['\x7d'])
  else [c]

/-- A text between quotation marks, with every character visible. -/
def visible (s : String) : String :=
  String.ofList ('\x22' :: (s.toList.flatMap mark ++ ['\x22']))

end ClusterSession.Text
