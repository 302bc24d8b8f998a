import RdmaLink.Command.Arguments

/-!
# Help

The pages of help, and the lines that answer a question for the version or report a misuse.
-/

namespace RdmaLink.Command

/-- Name of the program. -/
def program : String := "rdma_endpoint"

/-- Version number of the program. -/
def release : String := "0.1.0"

/-- The lines of a page of help. -/
def Topic.page : Topic → List String
  | .program => [
      "Point-to-point RDMA transport endpoint",
      "",
      "Usage: rdma_endpoint [OPTIONS] <COMMAND>",
      "",
      "Commands:",
      "  listen   Accept one peer and report what it writes",
      "  connect  Connect to a listener and write blocks into its region",
      "  devices  List the devices this build can open",
      "  help     Print this message or the help of the given subcommand(s)",
      "",
      "Options:",
      "  -c, --config <FILE>      Endpoint configuration file (TOML). Defaults apply when omitted",
      "      --service <SERVICE>  Service name used when no configuration file is given [default: rdma_endpoint]",
      "      --socket             Use the TCP socket data path instead of RDMA",
      "  -v, --verbose            Enable verbose logging",
      "      --json               Output logs in JSON format",
      "  -h, --help               Print help",
      "  -V, --version            Print version"]
  | .listen => [
      "Accept one peer and report what it writes",
      "",
      "Usage: rdma_endpoint listen <ADDR>",
      "",
      "Arguments:",
      "  <ADDR>  Rendezvous address to bind",
      "",
      "Options:",
      "  -h, --help  Print help"]
  | .connect => [
      "Connect to a listener and write blocks into its region",
      "",
      "Usage: rdma_endpoint connect [OPTIONS] <ADDR>",
      "",
      "Arguments:",
      "  <ADDR>  Listener rendezvous address",
      "",
      "Options:",
      "  -n, --writes <WRITES>  Number of writes to issue [default: 10]",
      "  -s, --size <SIZE>      Bytes per write [default: 4096]",
      "  -h, --help             Print help"]
  | .devices => [
      "List the devices this build can open",
      "",
      "Usage: rdma_endpoint devices",
      "",
      "Options:",
      "  -h, --help  Print help"]
  | .help => [
      "Print this message or the help of the given subcommand(s)",
      "",
      "Usage: rdma_endpoint help [COMMAND]...",
      "",
      "Arguments:",
      "  [COMMAND]...  Print help for the subcommand(s)"]

/-- What a halted command line writes to the standard output. -/
def Halt.lines : Halt → List String
  | .help topic => topic.page
  | .version => [program ++ " " ++ release]
  | .misuse _ => []

/-- What a halted command line writes to the error output. -/
def Halt.complaints : Halt → List String
  | .misuse fault =>
    ["error: " ++ fault.message, "", "For more information, try '--help'."]
  | _ => []

/-- The exit status of a halted command line. -/
def Halt.status : Halt → Nat
  | .misuse _ => 2
  | _ => 0

end RdmaLink.Command
