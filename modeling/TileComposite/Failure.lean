import TileComposite.CommandLine.Misuse
import TileComposite.Pixel.Type
import TileComposite.Text.Sequence
import TileComposite.Value
import TileComposite.Yaml.ScalarFault

/-! Everything that can go wrong, as causes. Each failure belongs to a category,
which decides how a job reacts to it, and has one message. Where the message holds an
integer that is too long to be written, this is what goes wrong in its place. -/
namespace TileComposite

/-- Kinds of failure. A tile that is not found and a write out of order are
failures of a plate; those, wrong arguments and unsupported pixels are failures
of a job. -/
inductive Category where
  | job | argument | unsupported
  | store | tileNotFound | writeProtocol
  | system | missingFile | directoryFile | notDirectory
  | value | index | planeSize | key | attribute | mismatch | overflow | recursion | memory
  deriving DecidableEq

namespace Category

def isStore : Category → Bool
  | store | tileNotFound | writeProtocol => true
  | _ => false

def isJob : Category → Bool
  | job | argument | unsupported => true
  | c => c.isStore

def isSystem : Category → Bool
  | system | missingFile | directoryFile | notDirectory => true
  | _ => false

end Category

/-- Why a file cannot be read. -/
inductive FileFault where
  | missing | directory | notDirectory | nameTooLong
  deriving DecidableEq

/-- Why the host of a locator is refused. -/
inductive HostFault where
  | unbalanced
  | notFuture
  | notSix
  | notAddress (host : String)
  | disguised (host : String)
  deriving DecidableEq

def HostFault.message : HostFault → String
  | .unbalanced => "Invalid IPv6 URL"
  | .notFuture => "IPvFuture address is invalid"
  | .notSix => "An IPv4 address cannot be in brackets"
  | .notAddress host => Text.quoted host ++ " does not appear to be an IPv4 or IPv6 address"
  | .disguised host =>
    "netloc '" ++ host ++ "' contains invalid characters under NFKC normalization"

def FileFault.message (path : String) : FileFault → String
  | .missing => "[Errno 2] No such file or directory: " ++ Text.quoted path
  | .directory => "[Errno 21] Is a directory: " ++ Text.quoted path
  | .notDirectory => "[Errno 20] Not a directory: " ++ Text.quoted path
  | .nameTooLong => "[Errno 36] File name too long: " ++ Text.quoted path

/-- Causes of failure. A literal is missing if it holds an integer that cannot be
written. -/
inductive Failure where
  -- pixels
  | negativeExtent
  | extentTooLarge
  | tooManyBytes
  | noMemory (size : String) (shape : List Nat) (element : ElementType)
  | unexpectedShape (expected : PixelType) (shape : List Nat)
  | unreadableElement (actual : ElementType) (expected : PixelType)
  | unsupportedFormat (declared : Option String)
  | unsupportedChannel (declared : Option String) (format : PixelFormat)
  -- compositing
  | nothingToReduce
  | notAPlane (rank : Nat)
  | notChanneled (rank : Nat)
  | missingChannel (channel size : Nat)
  | unequalPlanes
  | unknownReducer (name : Option String)
  | unregisteredReducer (name : Option String)
  -- grid
  | negativeLevel (level : Int)
  | emptyBlock (size : Int)
  | negativeGrid (size : Int)
  | invertedUnit (colMin rowMin colMax rowMax : Int)
  | tooFewJobs (count : Int)
  | jobOutside (job count : Int)
  -- plates
  | negativeLevelCount (count : Int)
  | levelOutside (level count : Int)
  | noTiles (col row level first last : Int)
  | noTile (col row level transaction : Int)
  | writeOpen
  | updateUnrequested
  | completeUnrequested
  | rejectedTile (col row transaction : Int) (cause : Failure)
  | unequalTiles (col row : Int) (shapes : List (List Nat))
  /-- A failure that a foreign plate reports in its own words. -/
  | reported (category : Category) (text : String)
  -- locators
  | noLocator
  | noBackend (url : String) (schemes : List String)
  | noNamedPlate (name : String)
  | badHost (fault : HostFault)
  -- configuration
  | unknownKeys (literals : Option (List String))
  | incomparableKeys (cause : Scalar.Unordered)
  | notInteger (field : String) (literal : Option String)
  | notText (field : String) (literal : Option String)
  | jobCountTooSmall (count : Int)
  | jobBeyondCount (job count : Int)
  | blockTooSmall (size : Int)
  | invertedRange (first last : Int)
  | urlRequired
  | endRequired
  | malformedFile (path : String)
  | fileNotMapping (path : String)
  | sectionNotMapping (path : String)
  | badScalar (fault : Yaml.ScalarFault)
  | unreadableFile (fault : FileFault) (path : String)
  | nulInPath
  | misuse (cause : CommandLine.Misuse)
  -- jobs
  | levelNotInPlate (level : Int) (url : String) (count : Int)
  /-- An integer is too long for a log line or a label. -/
  | unlogged
  /-- The share of completed units is beyond the range of a float. -/
  | shareTooLarge
  deriving DecidableEq

namespace Failure

def shapeText (shape : List Nat) : String := Text.tupled (shape.map toString)

/-- The category of what goes wrong, if it can be said. -/
def kind : Failure → Category
  | negativeExtent | extentTooLarge | tooManyBytes => .value
  | noMemory .. => .memory
  | unexpectedShape .. | unreadableElement .. => .value
  | unsupportedFormat _ | unsupportedChannel .. => .unsupported
  | nothingToReduce | notAPlane _ => .value
  | notChanneled _ | missingChannel .. => .index
  | unequalPlanes => .planeSize
  | unknownReducer _ | unregisteredReducer _ => .argument
  | negativeLevel _ | emptyBlock _ | negativeGrid _ => .argument
  | invertedUnit .. => .value
  | tooFewJobs _ | jobOutside .. => .argument
  | negativeLevelCount _ => .value
  | levelOutside .. => .store
  | noTiles .. | noTile .. => .tileNotFound
  | writeOpen | updateUnrequested | completeUnrequested => .writeProtocol
  | rejectedTile .. | unequalTiles .. => .store
  | reported category _ => category
  | noLocator | noBackend .. | noNamedPlate _ => .argument
  | badHost _ => .value
  | unknownKeys _ => .argument
  | incomparableKeys _ => .mismatch
  | notInteger .. | notText .. => .argument
  | jobCountTooSmall _ | jobBeyondCount .. | blockTooSmall _ | invertedRange .. => .argument
  | urlRequired | endRequired => .argument
  | malformedFile _ | fileNotMapping _ | sectionNotMapping _ => .argument
  | badScalar fault =>
    match fault with
    | .emptyNumber => .index
    | .notBool _ => .key
    | .notTimestamp => .attribute
    | .wrappedTimestamp => .mismatch
    | .tooManyPlaces | .codeTooLarge => .overflow
    | .endlessText => .recursion
    | _ => .value
  | unreadableFile fault _ =>
    match fault with
    | .missing => .missingFile
    | .directory => .directoryFile
    | .notDirectory => .notDirectory
    | .nameTooLong => .system
  | nulInPath => .value
  | misuse _ => .argument
  | levelNotInPlate .. => .argument
  | unlogged => .value
  | shareTooLarge => .overflow

/-- The message, unless an integer in it is too long to be written. Those of buffers are
machine words, and never are. -/
def message? : Failure → Option String
  | negativeExtent => some "negative dimensions are not allowed"
  | extentTooLarge => some "Maximum allowed dimension exceeded"
  | tooManyBytes => some
    "array is too big; \x60arr.size * arr.dtype.itemsize\x60 is larger than the maximum possible size."
  | noMemory size shape element => some <|
    "Unable to allocate " ++ size ++ " for an array with shape " ++ shapeText shape
      ++ " and data type " ++ element.name
  | unexpectedShape expected shape => some <|
    s!"Expected (H, W, {expected.channels}) buffer for " ++ expected.text
      ++ ", got shape " ++ shapeText shape
  | unreadableElement actual expected => some <|
    "Cannot read " ++ actual.name ++ " buffer as " ++ expected.text
  | unsupportedFormat declared => do
    return "Platefile contains an unsupported pixel format: " ++ (← declared)
  | unsupportedChannel declared format => do
    return "Platefile contains unsupported channel type " ++ (← declared)
      ++ " for pixel format " ++ format.name
  | nothingToReduce => some "WeightedAverageReducer needs at least one input buffer"
  | notAPlane rank => some s!"not enough values to unpack (expected 2, got {rank})"
  | notChanneled rank => some
    s!"too many indices for array: array is {rank}-dimensional, but 3 were indexed"
  | missingChannel channel size => some
    s!"index {channel} is out of bounds for axis 2 with size {size}"
  | unequalPlanes => some "planes differ in size"
  | unknownReducer name => do
    return "Unknown function, " ++ (← name) ++ ". Available: [WeightedAvg]"
  | unregisteredReducer name => do return "No reducer registered for " ++ (← name)
  | negativeLevel level => do return s!"level must be >= 0, got {← Text.decimal? level}"
  | emptyBlock size => do return s!"block_size must be >= 1, got {← Text.decimal? size}"
  | negativeGrid size => do return s!"grid size must be >= 0, got {← Text.decimal? size}"
  | invertedUnit colMin rowMin colMax rowMax => do
    let bounds ← [colMin, rowMin, colMax, rowMax].mapM Text.decimal?
    return "Invalid work unit bounds: " ++ Text.tupled bounds
  | tooFewJobs count => do return s!"num_jobs must be >= 1, got {← Text.decimal? count}"
  | jobOutside job count => do
    return s!"job_id must be in [0, {← Text.decimal? count}), got {← Text.decimal? job}"
  | negativeLevelCount count => do
    return s!"num_levels must be >= 0, got {← Text.decimal? count}"
  | levelOutside level count => do
    return s!"Level {← Text.decimal? level} outside [0, {← Text.decimal? count})"
  | noTiles col row level first last => do
    return s!"No tiles at col={← Text.decimal? col} row={← Text.decimal? row} "
      ++ s!"level={← Text.decimal? level} in transactions "
      ++ s!"[{← Text.decimal? first}, {← Text.decimal? last}]"
  | noTile col row level transaction => do
    return s!"No tile at col={← Text.decimal? col} row={← Text.decimal? row} "
      ++ s!"level={← Text.decimal? level} transaction={← Text.decimal? transaction}"
  | writeOpen => some "write_request() called while a write is already open"
  | updateUnrequested => some "write_update() called without write_request()"
  | completeUnrequested => some "write_complete() called without write_request()"
  | rejectedTile col row transaction cause => do
    return s!"Tile ({← Text.decimal? col}, {← Text.decimal? row}) transaction "
      ++ s!"{← Text.decimal? transaction}: " ++ cause.message?.getD Text.limitMessage
  | unequalTiles col row shapes => do
    return s!"Tile versions at ({← Text.decimal? col}, {← Text.decimal? row}) differ in size: "
      ++ Text.listed (shapes.map shapeText)
  | reported _ text => some text
  | noLocator => some "No plate URL given"
  | noBackend url schemes => some <|
    "No store backend for '" ++ url ++ "'. Registered schemes: "
      ++ Text.listed (schemes.map Text.quoted)
  | noNamedPlate name => some ("No in-memory plate named '" ++ name ++ "'")
  | badHost fault => some fault.message
  | unknownKeys literals => do
    return "Unknown configuration keys: " ++ Text.listed (← literals)
  | incomparableKeys cause => some cause.message
  | notInteger field literal => do return field ++ " must be an integer, got " ++ (← literal)
  | notText field literal => do return field ++ " must be a string, got " ++ (← literal)
  | jobCountTooSmall count => do return s!"num_jobs must be >= 1, got {← Text.decimal? count}"
  | jobBeyondCount job count => do
    return s!"job_id must be between 0 and {← Text.decimal? (count - 1)}, "
      ++ s!"got {← Text.decimal? job}"
  | blockTooSmall size => do return s!"block_size must be >= 1, got {← Text.decimal? size}"
  | invertedRange first last => do
    return s!"end_trans_id ({← Text.decimal? last}) must be >= "
      ++ s!"start_trans_id ({← Text.decimal? first})"
  | urlRequired => some "A plate URL is required"
  | endRequired => some "An ending transaction id (end_t) is required"
  | malformedFile path => some ("Invalid configuration file " ++ path ++ ": not a single document")
  | fileNotMapping path => some ("Configuration file " ++ path ++ " must contain a mapping")
  | sectionNotMapping path => some ("The reduce section of " ++ path ++ " must be a mapping")
  | badScalar fault => some fault.message
  | unreadableFile fault path => some (FileFault.message path fault)
  | nulInPath => some "embedded null byte"
  | misuse cause => some ("Error parsing input:\n\t" ++ cause.message)
  | levelNotInPlate level url count => do
    return s!"Incorrect level selection, {← Text.decimal? level}.\n\n"
      ++ s!"Platefile {url} has {← Text.decimal? count} levels internally."
  | unlogged => some Text.limitMessage
  | shareTooLarge => some "integer division result too large for a float"

/-- The message can be written. -/
def isLegible (e : Failure) : Bool := e.message?.isSome

/-- An integer that cannot be written is a wrong value, whatever it was to be said about. -/
def category (e : Failure) : Category := if e.isLegible then e.kind else .value

def message (e : Failure) : String := e.message?.getD Text.limitMessage

end Failure
end TileComposite
