import Playground.Files.Path
import Playground.Text.Portions
import Playground.Yaml.Reading

/-!
# Documents in files

* `Yaml.load` — the value of the document in a file.
-/

namespace Playground.Yaml

open Playground.Text

/-- The value of the document in the bytes of a file, or the wording of what is wrong with it. The
text is handed on in portions, so it is read up to the first fault in the bytes. -/
def load (path : Path) (bytes : List UInt8) : Except String Value :=
  let portions := readPortions bytes
  let beyond := portions.fault.map fun fault => Problem.unreadable fault.message
  (read portions.text beyond).mapError fun problem => problem.text path.text

end Playground.Yaml
