/-!
# Help texts

What the program prints when it is asked how it is used.
-/

namespace BoardLink.CommandLine.Help

/-- Lines of text, each with its end. -/
def lines (ls : List String) : String := String.join (ls.map fun l => l ++ "\n")

def version : String := lines ["pclinkd 0.1.0"]

def program : String := lines [
  "Host daemon bridging peripheral drivers to an FPGA board over a serial link",
  "",
  "Usage: pclinkd [OPTIONS] [COMMAND]",
  "",
  "Commands:",
  "  gen-config  Generate example configuration file",
  "  validate    Validate a configuration file",
  "  drivers     List the peripherals known to the driver catalog",
  "  help        Print this message or the help of the given subcommand(s)",
  "",
  "Options:",
  "  -c, --config <CONFIG>            Configuration file path",
  "  -s, --serial-port <SERIAL_PORT>  Serial device (overrides the configuration)",
  "      --log-level <LOG_LEVEL>      Log level (trace, debug, info, warn, error)",
  "      --trace-packets              Hex-dump every packet at trace level",
  "  -o, --overload <OVERLOAD>        Static driver assignment (format: \"slot:driver\", " ++
    "can repeat)",
  "  -h, --help                       Print help",
  "  -V, --version                    Print version"]

def generate : String := lines [
  "Generate example configuration file",
  "",
  "Usage: pclinkd gen-config [OPTIONS]",
  "",
  "Options:",
  "  -o, --output <OUTPUT>  Output file path [default: pclinkd.toml]",
  "  -h, --help             Print help"]

def validate : String := lines [
  "Validate a configuration file",
  "",
  "Usage: pclinkd validate --config <CONFIG>",
  "",
  "Options:",
  "  -c, --config <CONFIG>  Configuration file path",
  "  -h, --help             Print help"]

def drivers : String := lines [
  "List the peripherals known to the driver catalog",
  "",
  "Usage: pclinkd drivers",
  "",
  "Options:",
  "  -h, --help  Print help"]

def help : String := lines [
  "Print this message or the help of the given subcommand(s)",
  "",
  "Usage: pclinkd help [COMMAND]...",
  "",
  "Arguments:",
  "  [COMMAND]...  Print help for the subcommand(s)"]

def ofCommand : List (String × String) :=
  [("gen-config", generate), ("validate", validate), ("drivers", drivers), ("help", help)]

end BoardLink.CommandLine.Help
