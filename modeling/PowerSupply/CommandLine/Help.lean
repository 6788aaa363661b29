/-
# The texts of the command line

The usage lines, which every refusal starts with, and the help text, which starts
with them too.
-/

import PowerSupply.CommandLine.Request
import PowerSupply.Text.Lines

namespace PowerSupply
namespace CommandLine

/-- How the command is written. -/
def usage : String :=
  Text.unlines
    ["usage: batterystate [-h] [--list] [--json] [--watch] [--interval INTERVAL]",
     "                    [--root ROOT] [--config CONFIG] [--verbose]"]

/-- The usage, an account of every switch, and examples. -/
def help : String :=
  usage ++ Text.unlines
    ["",
     "batterystate - battery and power-supply status",
     "",
     "options:",
     "  -h, --help            show this help message and exit",
     "  --list, -l            Show resolved power-supply files",
     "  --json, -j            Output as JSON",
     "  --watch, -w           Continuously monitor battery",
     "  --interval INTERVAL, -i INTERVAL",
     "                        Watch interval in seconds (default: from config, 30)",
     "  --root ROOT, -r ROOT  Power-supply directory",
     "  --config CONFIG, -c CONFIG",
     "                        Config file path",
     "  --verbose, -v         Enable debug logging",
     "",
     "Examples:",
     "  batterystate              Show battery and charger status",
     "  batterystate --json       Output as JSON (for scripts/waybar)",
     "  batterystate --list       Show which attribute files were resolved",
     "  batterystate --watch      Continuously monitor battery"]

/-- What is shown of a refusal. -/
def Refusal.text (r : Refusal) : String :=
  usage ++ "batterystate: error: " ++ r.message ++ "\n"

end CommandLine
end PowerSupply
