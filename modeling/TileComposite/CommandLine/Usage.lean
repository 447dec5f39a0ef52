/-! The usage of the command, and the help that explains it, for a terminal of
eighty columns. -/
namespace TileComposite.CommandLine

/-- Lines, each with its line break. -/
def unlines (lines : List String) : String := String.join (lines.map (· ++ "\n"))

def usage : String := unlines [
  "usage: platereduce [-h] [-c CONFIG] [-j JOB_ID] [-n NUM_JOBS]",
  "                   [--start_t START_T] [--end_t END_T] [-l LEVEL]",
  "                   [-f FUNCTION] [-t TRANSACTION_ID] [--json] [-v]",
  "                   [url]"]

/-- The usage, the purpose, and a line or two for every argument. -/
def help : String := usage ++ unlines [
  "",
  "Perform weighted averages of all layers within a tile inside a plate file",
  "",
  "positional arguments:",
  "  url                   Plate URL (e.g. memory://name). Only the in-process",
  "                        memory:// backend is built in; other schemes are added",
  "                        with platereduce.store.register_backend",
  "",
  "options:",
  "  -h, --help            show this help message and exit",
  "  -c CONFIG, --config CONFIG",
  "                        YAML job configuration; command-line flags override it",
  "  -j JOB_ID, --job_id JOB_ID",
  "                        Index of this job among num_jobs (default: 0)",
  "  -n NUM_JOBS, --num_jobs NUM_JOBS",
  "                        Number of cooperating jobs (default: 1)",
  "  --start_t START_T     Input starting transaction ID range (default: 0)",
  "  --end_t END_T         Input ending transaction ID range",
  "  -l LEVEL, --level LEVEL",
  "                        Level inside the plate in which to process. -1 will",
  "                        error out and show the number of levels available.",
  "                        (default: -1)",
  "  -f FUNCTION, --function FUNCTION",
  "                        Functions that are available are [WeightedAvg]",
  "                        (default: WeightedAvg)",
  "  -t TRANSACTION_ID, --transaction-id TRANSACTION_ID",
  "                        Transaction id to write to (default: 2000)",
  "  --json                Print the job result as JSON",
  "  -v, --verbose         Enable verbose logging"]

end TileComposite.CommandLine
