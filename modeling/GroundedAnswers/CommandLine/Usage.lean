import GroundedAnswers.CommandLine.Words

namespace GroundedAnswers

/-! What is said when a command line names no command to run. -/

namespace UsageFault

def usage : String :=
  "Usage: grounded-answers [--json-logs] [--timeout <seconds>] [--offline] <command>\n\n" ++
  "Commands:\n" ++
  "  models [--json]\n" ++
  "  chat <prompt> [-m <model>] [-b <backend>] [-s <system>] [--temperature <number>] [--stream]\n" ++
  "  ask <question> -f <files> [-m <model>] [-b <backend>] [corpus and retrieval options]\n" ++
  "  search <query> -f <files> [corpus and retrieval options]\n" ++
  "  help [command]\n\n" ++
  "Corpus options:\n" ++
  "  --chunk-size <count> --chunk-overlap <count> --strategy <fixed|sentence|recursive>\n" ++
  "  --embedding-model <model> --embedding-backend <backend>\n\n" ++
  "Retrieval options:\n" ++
  "  -k <count> --min-score <number> --hybrid --rerank --rewrite --hyde --trace\n"

def message : UsageFault → String
  | unknownArgument => "unexpected argument"
  | missingArgument => "a required argument is missing"
  | unreadableValue => "a value cannot be read"
  | missingValue => "an option is left without its value"
  | repeatedOption => "an option is given more than once"
  | surplusValue => "a value is given to an option that takes none"
  | unknownCommand => "unknown command"
  | missingCommand => "a command is missing"
  | emptyCommandLine => usage
  | help => usage
  | version => "grounded-answers 0.1.0"

/-- Help and the version are asked for; everything else is an error. -/
def isError : UsageFault → Bool
  | help => false
  | version => false
  | _ => true

end UsageFault

end GroundedAnswers
