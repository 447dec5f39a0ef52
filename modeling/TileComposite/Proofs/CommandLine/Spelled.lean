import TileComposite.Proofs.CommandLine.Overrides
import TileComposite.Proofs.Text.Integer

/-! Configurations spelled out on the command line. Each setting but the url has a long flag, and
a word that joins the flag and the setting's value with an equals sign sets it to that value,
whatever the value begins with. One text is no value even there, which is the separator. -/
namespace TileComposite.CommandLine

/-! ### One word -/

/-- No spelling has an equals sign in it. -/
theorem Flag.ofSpelling?_equals {text : String} (equals : '=' ∈ text.toList) :
    Flag.ofSpelling? text = none := by
  have plain : ∀ e ∈ Flag.spelled, '=' ∉ e.1.toList := by decide
  refine List.lookup_eq_none_iff.mpr fun e member => ?_
  rw [bne_iff_ne]
  rintro rfl
  exact plain e member equals

theorem splitEquals_append {stem : List Char} (plain : '=' ∉ stem) (value : List Char) :
    splitEquals (stem ++ '=' :: value) = (stem, some value) := by
  induction stem with
  | nil => rfl
  | cons c stem ih =>
    have other : c ≠ '=' := fun same => plain (by simp [same])
    rw [List.cons_append, splitEquals, if_neg other,
      ih fun member => plain (List.mem_cons_of_mem c member)]

/-- A long flag and its value, which may be any text. -/
theorem Word.read_assignment (stem : String) {start : String} {f : Flag} {rest : List Char}
    (known : Flag.ofSpelling? stem = some f) (long : stem.toList = '-' :: '-' :: rest)
    (joined : start = stem ++ "=") (value : String) :
    Word.read (start ++ value) = .ok (.assignment f value.toList) := by
  have text : (start ++ value).toList = '-' :: '-' :: (rest ++ '=' :: value.toList) := by
    simp [joined, long]
  have plain : '=' ∉ stem.toList := fun equals => by
    cases known.symm.trans (Flag.ofSpelling?_equals equals)
  have parts : splitEquals ('-' :: '-' :: (rest ++ '=' :: value.toList)) =
      ('-' :: '-' :: rest, some value.toList) :=
    splitEquals_append (long ▸ plain) value.toList
  have unspelled : Flag.ofSpelling? (start ++ value) = none :=
    Flag.ofSpelling?_equals (by simp [text])
  rw [← String.ofList_toList (s := stem), long] at known
  simp only [Word.read, Word.ofHyphen, text, unspelled, parts, known]
  rfl

/-- A text that does not begin like a flag. -/
theorem Word.read_plain {text : String} (plain : text.toList.head? ≠ some '-') :
    Word.read text = .ok (.plain text) := by
  unfold Word.read
  split
  · rename_i begins
    exact absurd (by rw [begins]; rfl) plain
  · rfl

/-! ### The words of a configuration -/

/-- A setting that the command line gives. -/
inductive Setting where
  | url | level | first | last | function | output | job | jobs
  deriving DecidableEq

namespace Setting

def all : List Setting := [.url, .level, .first, .last, .function, .output, .job, .jobs]

theorem mem_all (item : Setting) : item ∈ all := by
  cases item <;> decide

section
variable (s : Settings) (last : Int)

/-- The word that gives one of the settings, of which `last` is the end of the range. -/
def word : Setting → String
  | .url => s.url
  | .level => "--level=" ++ toString s.level
  | .first => "--start_t=" ++ toString s.first
  | .last => "--end_t=" ++ toString last
  | .function => "--function=" ++ s.function
  | .output => "--transaction-id=" ++ toString s.output
  | .job => "--job_id=" ++ toString s.job
  | .jobs => "--num_jobs=" ++ toString s.jobs

/-- What the word is judged to be. -/
def judged : Setting → Word
  | .url => .plain s.url
  | .level => .assignment (.parameter .level) (toString s.level).toList
  | .first => .assignment (.parameter .first) (toString s.first).toList
  | .last => .assignment (.parameter .last) (toString last).toList
  | .function => .assignment (.parameter .function) s.function.toList
  | .output => .assignment (.parameter .output) (toString s.output).toList
  | .job => .assignment (.parameter .job) (toString s.job).toList
  | .jobs => .assignment (.parameter .jobs) (toString s.jobs).toList

/-- The arguments that give some of the settings. A function that is the separator is lost. -/
def given (items : List Setting) : Arguments where
  overrides := {
    url := if .url ∈ items then some s.url else none
    level := if .level ∈ items then some s.level else none
    first := if .first ∈ items then some s.first else none
    last := if .last ∈ items then some last else none
    function := if .function ∈ items ∧ s.function ≠ "--" then some s.function else none
    output := if .output ∈ items then some s.output else none
    job := if .job ∈ items then some s.job else none
    jobs := if .jobs ∈ items then some s.jobs else none }
  voided := if .function ∈ items ∧ s.function = "--" then [.function] else []

end

/-- The settings can be written down: the url does not begin like a flag, and the integers do
not have more digits than are read. -/
structure Spelled (s : Settings) (last : Int) : Prop where
  url : s.url.toList.head? ≠ some '-'
  level : Text.FewDigits s.level
  first : Text.FewDigits s.first
  last : Text.FewDigits last
  output : Text.FewDigits s.output
  job : Text.FewDigits s.job
  jobs : Text.FewDigits s.jobs

variable {s : Settings} {last : Int} {item : Setting} {items done : List Setting} {r : Reading}

theorem read_word (spelled : Spelled s last) (item : Setting) :
    Word.read (item.word s last) = .ok (item.judged s last) := by
  cases item with
  | url => exact Word.read_plain spelled.url
  | level => exact Word.read_assignment "--level" rfl rfl rfl _
  | first => exact Word.read_assignment "--start_t" rfl rfl rfl _
  | last => exact Word.read_assignment "--end_t" rfl rfl rfl _
  | function => exact Word.read_assignment "--function" rfl rfl rfl _
  | output => exact Word.read_assignment "--transaction-id" rfl rfl rfl _
  | job => exact Word.read_assignment "--job_id" rfl rfl rfl _
  | jobs => exact Word.read_assignment "--num_jobs" rfl rfl rfl _

theorem word_ne_separator (spelled : Spelled s last) (item : Setting) :
    item.word s last ≠ "--" := by
  intro same
  have ambiguous : (Word.read "--").isOk = false := by decide
  rw [← same, read_word spelled] at ambiguous
  cases ambiguous

theorem readAll_words (spelled : Spelled s last) (items : List Setting) :
    Word.readAll (items.map (word s last)) = .ok (items.map (judged s last)) := by
  induction items with
  | nil => rfl
  | cons item items ih =>
    rw [List.map_cons, Word.readAll, if_neg (word_ne_separator spelled item),
      read_word spelled, ih]
    rfl

/-! ### Taking the words -/

theorem intValue_toString {n : Int} (few : Text.FewDigits n) (p : Parameter) :
    Arguments.intValue p (toString n) = .ok n := by
  rw [Arguments.intValue, Text.readInt_toString few]

theorem toString_ne_separator {n : Int} (few : Text.FewDigits n) : toString n ≠ "--" := by
  intro same
  have malformed : (Text.readInt 10 "--".toList).isOk = false := by decide
  rw [← same, Text.readInt_toString few] at malformed
  cases malformed

/-- A parameter other than the function is not among those that have lost their value. -/
theorem give_toString {p : Parameter} {n : Int} (few : Text.FewDigits n) (other : p ≠ .function) :
    (given s last done).give p (toString n) = (given s last done).set p (toString n) := by
  have kept : (given s last done).voided.filter (· ≠ p) = (given s last done).voided := by
    unfold given
    dsimp only
    split
    · simp [Ne.symm other]
    · rfl
  rw [Arguments.give, if_neg (toString_ne_separator few), kept]

theorem give_given {p : Parameter} {value : List Char} (spelled : Spelled s last)
    (fresh : item ∉ done) (assigned : item.judged s last = .assignment (.parameter p) value) :
    (given s last done).give p (String.ofList value) = .ok (given s last (item :: done)) := by
  cases item with
  | url => cases assigned
  | function =>
    cases assigned
    rw [String.ofList_toList, Arguments.give]
    by_cases separator : s.function = "--"
    · rw [if_pos separator]
      simp [Arguments.void, given, separator, fresh]
    · rw [if_neg separator]
      simp [Arguments.set, given, separator]
  | level =>
    cases assigned
    rw [String.ofList_toList, give_toString spelled.level (by decide), Arguments.set,
      intValue_toString spelled.level]
    simp [given]
  | first =>
    cases assigned
    rw [String.ofList_toList, give_toString spelled.first (by decide), Arguments.set,
      intValue_toString spelled.first]
    simp [given]
  | last =>
    cases assigned
    rw [String.ofList_toList, give_toString spelled.last (by decide), Arguments.set,
      intValue_toString spelled.last]
    simp [given]
  | output =>
    cases assigned
    rw [String.ofList_toList, give_toString spelled.output (by decide), Arguments.set,
      intValue_toString spelled.output]
    simp [given]
  | job =>
    cases assigned
    rw [String.ofList_toList, give_toString spelled.job (by decide), Arguments.set,
      intValue_toString spelled.job]
    simp [given]
  | jobs =>
    cases assigned
    rw [String.ofList_toList, give_toString spelled.jobs (by decide), Arguments.set,
      intValue_toString spelled.jobs]
    simp [given]

/-- Some settings are taken: no word is left over, and no parameter awaits its value. -/
structure Taken (s : Settings) (last : Int) (items : List Setting) (r : Reading) : Prop where
  arguments : r.arguments = given s last items
  leftover : r.leftover = []
  free : ∀ switches p, r.expected ≠ .value switches p

theorem Taken.word (taken : Taken s last done r) (w : Word) : r.word w = r.free w := by
  unfold Reading.word
  split
  · rename_i awaited
    exact absurd awaited (taken.free _ _)
  · rename_i awaited _
    exact absurd awaited (taken.free _ _)
  · rfl

theorem judged_cases (s : Settings) (last : Int) (item : Setting) : item = .url ∨
    ∃ p value, item.judged s last = .assignment (.parameter p) value := by
  cases item with
  | url => exact .inl rfl
  | _ => exact .inr ⟨_, _, rfl⟩

/-- A word takes its setting, unless that was taken before. -/
theorem Taken.cons (spelled : Spelled s last) (taken : Taken s last done r) (fresh : item ∉ done) :
    ∃ r', r.word (item.judged s last) = .ok r' ∧ Taken s last (item :: done) r' := by
  rw [taken.word]
  obtain rfl | ⟨p, value, assigned⟩ := judged_cases s last item
  · have first : r.arguments.overrides.url.isSome = false := by
      rw [taken.arguments]
      simp [given, fresh]
    refine ⟨{ r with arguments := r.arguments.giveUrl s.url, expected := .separator }, ?_, ?_⟩
    · rw [judged, Reading.free, first, if_neg Bool.false_ne_true]
    · refine ⟨?_, taken.leftover, nofun⟩
      rw [taken.arguments]
      simp [Arguments.giveUrl, given]
  · have gives := give_given spelled fresh assigned
    rw [← taken.arguments] at gives
    refine ⟨{ r with arguments := given s last (item :: done), expected := .nothing }, ?_,
      rfl, taken.leftover, nofun⟩
    rw [assigned]
    change (do return { r with arguments := ← r.arguments.give p (String.ofList value),
                               expected := .nothing } : Except Stop Reading) = _
    rw [gives]
    rfl

/-- Words take their settings in any order, by induction on the words that are left. -/
theorem Taken.words (spelled : Spelled s last) (taken : Taken s last done r)
    (once : (items ++ done).Nodup) :
    ∃ r', (items.map (judged s last)).foldlM Reading.word r = .ok r' ∧
      Taken s last (items.reverse ++ done) r' := by
  induction items generalizing done r with
  | nil => exact ⟨r, rfl, taken⟩
  | cons item items ih =>
    have fresh : item ∉ done := fun member =>
      (List.nodup_cons.mp once).1 (List.mem_append_right items member)
    obtain ⟨r', first, taken⟩ := taken.cons spelled fresh
    obtain ⟨r'', rest, taken⟩ := ih taken (List.perm_middle.nodup_iff.mpr once)
    refine ⟨r'', ?_, by simpa using taken⟩
    rw [List.map_cons, List.foldlM_cons, first]
    exact rest

theorem given_congr {others : List Setting} (same : ∀ item, item ∈ items ↔ item ∈ others) :
    given s last items = given s last others := by
  simp only [given, same]

/-- The words of some settings, in any order, give just these. -/
theorem parse_words (spelled : Spelled s last) (once : items.Nodup) :
    Arguments.parse (items.map (word s last)) = .ok (given s last items) := by
  have fresh : Taken s last [] {} := ⟨by simp [given], rfl, nofun⟩
  have once' : (items ++ []).Nodup := by rwa [List.append_nil]
  obtain ⟨r, words, taken⟩ := fresh.words spelled once'
  have same : r.arguments = given s last items := by
    rw [taken.arguments]
    exact given_congr (by simp)
  have finished : r.finish = .ok r.arguments := by
    unfold Reading.finish
    rw [taken.leftover]
    split
    · rename_i awaited
      exact absurd awaited (taken.free _ _)
    · rfl
    · contradiction
  rw [← same, ← finished]
  simp only [Arguments.parse, readAll_words spelled]
  change (items.map (judged s last)).foldlM Reading.word {} >>= Reading.finish = _
  rw [words]
  rfl

end Setting

/-! ### Configurations -/

namespace Arguments
variable {c : Config} {last : Int} {order : List Setting}

/-- All settings but the size of a block replace the standard ones. -/
theorem apply_given (ends : c.last = some last) (block : c.block = Config.standard.block)
    (text : c.function ≠ "--") :
    (Setting.given c.toSettings last Setting.all).overrides.apply Config.standard.toSettings =
      c.toSettings := by
  obtain ⟨⟨_, _, _, _, _, _, _, _, _⟩, _, _, _, _, _⟩ := c
  cases ends
  cases block
  simp [Setting.given, Setting.mem_all, Overrides.apply, text, Config.standard]

/-- A complete configuration with blocks of the standard size is spelled out by eight words in
any order: without a file they make the configuration itself. Only a function that is the
separator is lost on the way, and refused. -/
theorem config_words (spelled : Setting.Spelled c.toSettings last)
    (complete : c.url ≠ "" ∧ c.last = some last) (block : c.block = Config.standard.block)
    (all : order.Perm Setting.all) (files : Files) :
    ∃ a, parse (order.map (Setting.word c.toSettings last)) = .ok a ∧
      (c.function ≠ "--" → a.config files = .ok c) ∧
      (c.function = "--" → a.config files = .error (.notText "function" "[]")) := by
  have once : order.Nodup := all.nodup_iff.mpr (by decide)
  have every : Setting.given c.toSettings last order =
      Setting.given c.toSettings last Setting.all :=
    Setting.given_congr fun item => all.mem_iff
  refine ⟨_, Setting.parse_words spelled once, fun text => ?_, fun separator => ?_⟩
  · rw [every, config_of_none (.inl rfl)]
    have same := apply_given complete.2 block text
    refine overlay_ok_iff.mpr ⟨⟨?_, ?_, ?_⟩, same.symm⟩
    · intro p member
      simp [Setting.given, text] at member
    · rw [same]
      exact c.consistent
    · rw [same]
      exact ⟨complete.1, by simp [complete.2]⟩
  · have voided : (Setting.given c.toSettings last Setting.all).voided = [.function] := by
      simp [Setting.given, separator, Setting.mem_all]
    have refused : (Setting.given c.toSettings last Setting.all).checkVoided =
        .error (.notText "function" "[]") := by
      rw [checkVoided, voided]
      rfl
    rw [every, config_of_none (.inl rfl), overlay, refused]
    rfl

/-- The words are not in the order of the settings, and two values begin like a flag. -/
theorem config_words_shuffled :
    let c : Config := {
      url := "memory://p", level := 2, first := -3, last := some (-1), function := "-f",
      output := 9, job := 1, jobs := 2, jobs_pos := by decide, job_nonneg := by decide,
      job_lt := by decide, block_pos := by decide, range_ordered := by decide }
    let files : Files := fun path => .error (.unreadableFile .missing path)
    ∃ a, parse ["--function=-f", "--num_jobs=2", "--end_t=-1", "memory://p", "--job_id=1",
        "--transaction-id=9", "--start_t=-3", "--level=2"] = .ok a ∧ a.config files = .ok c := by
  intro c files
  let order : List Setting := [.function, .jobs, .last, .url, .job, .output, .first, .level]
  have words : order.map (Setting.word c.toSettings (-1)) = ["--function=-f", "--num_jobs=2",
      "--end_t=-1", "memory://p", "--job_id=1", "--transaction-id=9", "--start_t=-3",
      "--level=2"] := by decide +kernel
  have spelled : Setting.Spelled c.toSettings (-1) := by
    constructor <;> decide
  have all : order.Perm Setting.all := by decide
  obtain ⟨a, parsed, made, _⟩ := config_words spelled ⟨by decide, rfl⟩ rfl all files
  exact ⟨a, words ▸ parsed, made (by decide)⟩

/-- The function is the separator: it is given as a value, taken away as no value, and the
configuration does not come back. -/
theorem separator_function_lost :
    let c : Config := {
      url := "memory://p", level := 0, last := some 5, function := "--", output := 9,
      jobs_pos := by decide, job_nonneg := by decide, job_lt := by decide,
      block_pos := by decide, range_ordered := by decide }
    let files : Files := fun path => .error (.unreadableFile .missing path)
    ∃ a, parse ["memory://p", "--level=0", "--start_t=0", "--end_t=5", "--function=--",
        "--transaction-id=9", "--job_id=0", "--num_jobs=1"] = .ok a ∧
      a.config files = .error (.notText "function" "[]") ∧ a.config files ≠ .ok c := by
  intro c files
  let a : Arguments := {
    overrides := { url := some "memory://p", level := some 0, first := some 0, last := some 5,
                   output := some 9, job := some 0, jobs := some 1 }
    voided := [.function] }
  have refused : a.config files = .error (.notText "function" "[]") := by decide +kernel
  refine ⟨a, by decide +kernel, refused, ?_⟩
  rw [refused]
  nofun

end Arguments
end TileComposite.CommandLine
