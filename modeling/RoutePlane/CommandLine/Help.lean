/-!
The help texts of the program and of its commands, line by line.
-/
namespace RoutePlane.CommandLine

inductive Topic where
  | program
  | routes
  | forwarding
  | trace
  | statistics
  | help
  deriving DecidableEq

namespace Topic

def ofCommand? : String → Option Topic
  | "routes" => some routes
  | "fib" => some forwarding
  | "trace" => some trace
  | "stats" => some statistics
  | "help" => some help
  | _ => none

def programHelp : List String := [
  "Compute the converged data plane of a network snapshot",
  "",
  "Usage: ribsim [OPTIONS] <SNAPSHOT> <COMMAND>",
  "",
  "Commands:",
  "  routes  Print the route table of all main RIBs",
  "  fib     Print the forwarding tables",
  "  trace   Trace a flow through the network",
  "  stats   Print the convergence statistics",
  "  help    Print this message or the help of the given subcommand(s)",
  "",
  "Arguments:",
  "  <SNAPSHOT>  JSON snapshot with the configurations and external announcements",
  "",
  "Options:",
  "  -v, --verbose...",
  "          Increase the log level (can be repeated)",
  "      --max-iterations <MAX_ITERATIONS>",
  "          Maximum number of outer iterations before giving up [default: 100]",
  "      --threads <THREADS>",
  "          Number of worker threads [default: 1]",
  "  -h, --help",
  "          Print help",
  "  -V, --version",
  "          Print version"]

def plainHelp (name purpose : String) : List String := [
  purpose,
  "",
  s!"Usage: ribsim <SNAPSHOT> {name}",
  "",
  "Options:",
  "  -h, --help  Print help"]

def traceHelp : List String := [
  "Trace a flow through the network",
  "",
  "Usage: ribsim <SNAPSHOT> trace [OPTIONS] --node <NODE> --dst <DST>",
  "",
  "Options:",
  "      --node <NODE>          Ingress node",
  "      --vrf <VRF>            Ingress VRF [default: default]",
  "      --dst <DST>            Destination address",
  "      --src <SRC>            Source address [default: 0.0.0.0]",
  "      --protocol <PROTOCOL>  IP protocol (name or number) [default: tcp]",
  "      --dst-port <DST_PORT>  Destination port [default: 80]",
  "  -h, --help                 Print help"]

def helpHelp : List String := [
  "Print this message or the help of the given subcommand(s)",
  "",
  "Usage: ribsim <SNAPSHOT> help [COMMAND]...",
  "",
  "Arguments:",
  "  [COMMAND]...  Print help for the subcommand(s)"]

def helpLines : Topic → List String
  | program => programHelp
  | routes => plainHelp "routes" "Print the route table of all main RIBs"
  | forwarding => plainHelp "fib" "Print the forwarding tables"
  | trace => traceHelp
  | statistics => plainHelp "stats" "Print the convergence statistics"
  | help => helpHelp

end Topic

end RoutePlane.CommandLine
