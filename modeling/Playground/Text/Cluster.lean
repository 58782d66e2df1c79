import Playground.Text.Width

/-!
# Characters shown together

On a terminal several characters can share one place: marks stand on the character before them, a
joiner draws the next character into the picture before it, and a selector asks for the wide picture
of the character before it.

* `width` — the columns that a text takes.
* `Cluster` — characters that share one place, and the columns of the place.
* `clusters` — the places of a text, in order.
-/

namespace Playground.Text

/-- Draws the next character into the picture before it. -/
def joiner : Char := '\u200d'

def pictureSelector : Char := '\ufe0f'

/-- The columns that a text takes; `widenable` tells whether the last character that takes columns
has a wide picture that nobody has asked for yet. -/
def widthFrom (widenable : Bool) : List Char → Nat
  | [] => 0
  | c :: rest =>
    if c = joiner then
      match rest with
      | [] => 0
      | _ :: rest => widthFrom widenable rest
    else if c = pictureSelector then
      (if widenable then 1 else 0) + widthFrom false rest
    else if charWidth c = 0 then widthFrom widenable rest
    else charWidth c + widthFrom (isWidenable c) rest

def width (cs : List Char) : Nat := widthFrom false cs

/-- Characters that share one place. -/
structure Cluster where
  text : List Char
  width : Nat
  deriving DecidableEq, Repr, Inhabited

namespace Cluster

def add (k : Cluster) (c : Char) : Cluster := { k with text := k.text ++ [c] }

/-- The cluster with its picture, which takes one column more. -/
def widened (k : Cluster) : Cluster := { k with width := k.width + 1 }

def single (c : Char) : Cluster := ⟨[c], charWidth c⟩

end Cluster

/-- The clusters of a text that follows the cluster `last`; `widenable` tells whether the last
character that takes columns has a wide picture that nobody has asked for yet. -/
def clustersAfter (last : Cluster) (widenable : Bool) : List Char → List Cluster
  | [] => [last]
  | c :: rest =>
    if c = joiner then
      match rest with
      | [] => [last.add c]
      | d :: rest => clustersAfter ((last.add c).add d) widenable rest
    else if c = pictureSelector then
      if widenable then clustersAfter (last.add c).widened false rest
      else clustersAfter (last.add c) false rest
    else if charWidth c = 0 then clustersAfter (last.add c) widenable rest
    else last :: clustersAfter (.single c) (isWidenable c) rest

/-- The clusters of a text. At the start of a text a joiner or a selector has nothing to change. -/
def clusters : List Char → List Cluster
  | [] => []
  | c :: rest => clustersAfter (.single c) (isWidenable c) rest

end Playground.Text
