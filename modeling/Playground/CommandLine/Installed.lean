import Playground.CommandLine.Run
import Playground.Console.Print
import Playground.Yaml.Load

/-!
# The installed program

* `World.installed` — a world with nothing in it but what the program is installed with.
-/

namespace Playground.CommandLine

/-- A world without files or variables. Of the thousand calls that may lie within one another the
program itself takes five before it writes a value. -/
def World.installed : World where
  reader := Yaml.load
  room := 995
  printer := Console.printer

end Playground.CommandLine
