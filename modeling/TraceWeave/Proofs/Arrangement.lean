import Mathlib.Algebra.GroupWithZero.Nat
import Mathlib.Data.List.Nodup
import Mathlib.Data.List.Perm.Basic
import Mathlib.Data.List.TakeWhile
import TraceWeave.CommandLine.Call

/-! Options in any order.

A `Choice` is what a call asks for, and an arrangement of it writes its options down in pieces, in
any order and in any of their spellings. Reading one piece gives just what the piece says
(`exists_read_piece`), although the value of an option may be taken over only when the next option
comes (`Settles`). So all pieces together give what was chosen (`options_in_any_order`): a look-up
does not depend on the order in which different options were given (`lookup_eq_of_perm`). -/

namespace TraceWeave.CommandLine

/-- A value that cannot be taken for an option. -/
structure Operand where
  text : String
  nonempty : text ≠ ""
  plain : text.toList.head? ≠ some '-'

structure Choice where
  viewerTrace : Operand
  layerTrace : Operand
  outputTrace : Operand
  summary : Operand
  exporter : Operand
  importer : Operand
  interchange : Operand
  viewerMarker? : Option Operand
  layerMarker? : Option Operand
  alignmentDisabled : Bool
  increments : Nat

namespace Choice

def options (choice : Choice) : List (String × String) :=
  [("viewer-trace", choice.viewerTrace.text), ("layer-trace", choice.layerTrace.text),
    ("output-trace", choice.outputTrace.text), ("summary-out", choice.summary.text),
    ("csvexport-bin", choice.exporter.text), ("import-chrome-bin", choice.importer.text),
    ("chrome-out", choice.interchange.text)]
  ++ (choice.viewerMarker?.map fun marker => ("viewer-marker", marker.text)).toList
  ++ (choice.layerMarker?.map fun marker => ("layer-marker", marker.text)).toList

def config (choice : Choice) : Config where
  verbosity := min choice.increments 255
  viewerTrace := choice.viewerTrace.text
  layerTrace := choice.layerTrace.text
  outputTrace := choice.outputTrace.text
  interchange := choice.interchange.text
  summary := choice.summary.text
  viewerMarker := (choice.viewerMarker?.map (·.text)).getD Config.defaultViewerMarker
  layerMarker := (choice.layerMarker?.map (·.text)).getD Config.defaultLayerMarker
  alignmentDisabled := choice.alignmentDisabled

def operands (choice : Choice) : List (Valued × Operand) :=
  [(.viewerTrace, choice.viewerTrace), (.layerTrace, choice.layerTrace),
    (.outputTrace, choice.outputTrace), (.summary, choice.summary), (.exporter, choice.exporter),
    (.importer, choice.importer), (.interchange, choice.interchange)]
  ++ (choice.viewerMarker?.map fun marker => (.viewerMarker, marker)).toList
  ++ (choice.layerMarker?.map fun marker => (.layerMarker, marker)).toList

def values (choice : Choice) : List (Valued × String) :=
  choice.operands.map fun (option, operand) => (option, operand.text)

end Choice

inductive Piece where
  /-- An option and its value in two arguments. -/
  | apart (name value : String)
  /-- An option and its value in one argument. -/
  | joined (name value : String)
  | disabling
  /-- The letter `v` once, and as many times more. -/
  | letters (more : Nat)
  | verbose
  deriving DecidableEq

namespace Piece

def arguments : Piece → List String
  | apart name value => ["--" ++ name, value]
  | joined name value => ["--" ++ name ++ "=" ++ value]
  | disabling => ["--disable-marker-alignment"]
  | letters more => [String.ofList ('-' :: List.replicate (more + 1) 'v')]
  | verbose => ["--verbose"]

def option? : Piece → Option (String × String)
  | apart name value => some (name, value)
  | joined name value => some (name, value)
  | _ => none

def increments : Piece → Nat
  | letters more => more + 1
  | verbose => 1
  | _ => 0

end Piece

/-- The pieces say what was chosen, in whatever order. -/
structure Choice.Arranged (choice : Choice) (pieces : List Piece) : Prop where
  options : (pieces.filterMap Piece.option?).Perm choice.options
  disabling : pieces.count .disabling = if choice.alignmentDisabled then 1 else 0
  increments : (pieces.map Piece.increments).sum = choice.increments

/-! ### Arguments, one by one -/

namespace Known

theorem ofName?_name (known : Known) : ofName? known.name = some known := by
  rcases known with option | flag
  · cases option <;> rfl
  · cases flag <;> rfl

theorem name_ne_nil (known : Known) : known.name.toList ≠ [] := by
  rcases known with option | flag
  · cases option <;> decide
  · cases flag <;> decide

theorem equals_notMem_name (known : Known) : '=' ∉ known.name.toList := by
  rcases known with option | flag
  · cases option <;> decide
  · cases flag <;> decide

theorem ne_equals_of_mem_name (known : Known) : ∀ c ∈ known.name.toList, c ≠ '=' :=
  fun _ mem => ne_of_mem_of_not_mem mem known.equals_notMem_name

variable {rest : List Char}

theorem takeWhile_name (known : Known) (stop : ∀ c ∈ rest.head?, c = '=') :
    (known.name.toList ++ rest).takeWhile (· ≠ '=') = known.name.toList := by
  have all := known.ne_equals_of_mem_name
  rw [List.takeWhile_append_of_pos (by simpa using all)]
  cases rest with
  | nil => simp
  | cons c rest => simp [stop c rfl]

theorem dropWhile_name (known : Known) (stop : ∀ c ∈ rest.head?, c = '=') :
    (known.name.toList ++ rest).dropWhile (· ≠ '=') = rest := by
  have all := known.ne_equals_of_mem_name
  rw [List.dropWhile_append_of_pos (by simpa using all)]
  cases rest with
  | nil => simp
  | cons c rest => simp [stop c rfl]

end Known

namespace Reading

variable {reading : Reading} {given : Given} {option : Valued} {value : String}

theorem read_name (running : reading.ended = false) (known : Known) {rest : List Char}
    (stop : ∀ c ∈ rest.head?, c = '=') :
    reading.read (String.ofList ('-' :: '-' :: (known.name.toList ++ rest))) =
      reading.long known.name (rest.tail?.map String.ofList) := by
  have front := known.takeWhile_name stop
  have back := known.dropWhile_name stop
  obtain ⟨c, text, split⟩ : ∃ c text, known.name.toList ++ rest = c :: text :=
    List.exists_cons_of_ne_nil (by simp [known.name_ne_nil])
  rw [split] at front back ⊢
  unfold Reading.read
  rw [running, String.toList_ofList]
  simp only [Bool.false_eq_true, if_false, front, back, String.ofList_toList]
  cases rest with
  | nil => rfl
  | cons c rest => rfl

theorem read_separate (running : reading.ended = false) (known : Known) :
    reading.read ("--" ++ known.name) = reading.long known.name none := by
  have text : "--" ++ known.name = String.ofList ('-' :: '-' :: (known.name.toList ++ [])) := by
    apply String.toList_inj.mp
    simp
  rw [text, read_name running known (by simp)]
  rfl

theorem read_attached (running : reading.ended = false) (known : Known) (value : String) :
    reading.read ("--" ++ known.name ++ "=" ++ value) = reading.long known.name (some value) := by
  have text : "--" ++ known.name ++ "=" ++ value =
      String.ofList ('-' :: '-' :: (known.name.toList ++ '=' :: value.toList)) := by
    apply String.toList_inj.mp
    simp
  rw [text, read_name running known (by simp)]
  simp

theorem read_plain (running : reading.ended = false) (plain : value.toList.head? ≠ some '-') :
    reading.read value = reading.plain value := by
  unfold Reading.read
  rw [running]
  simp only [Bool.false_eq_true, if_false]
  cases text : value.toList with
  | nil => rfl
  | cons c rest =>
    rw [text] at plain
    split <;> simp_all

theorem read_letters (running : reading.ended = false) (more : Nat) :
    reading.read (String.ofList ('-' :: List.replicate (more + 1) 'v')) =
      reading.short (List.replicate (more + 1) 'v') := by
  unfold Reading.read
  rw [running, String.toList_ofList]
  rfl

end Reading

def Given.raised (given : Given) (n : Nat) : Given :=
  { given with verbosity := min (given.verbosity + n) maxVerbosity }

def Given.supplied (given : Given) (option : Valued) (value : String) : Given :=
  { given with values := (option, value) :: given.values }

namespace Reading

variable {reading next : Reading} {given : Given} {option : Valued} {argument value : String}

/-- What was read so far comes to `given` as soon as the last option is settled. -/
structure Settles (reading : Reading) (given : Given) : Prop where
  running : reading.ended = false
  settle : reading.settle = .ok ⟨given, none, false⟩

theorem settles_given (given : Given) : (⟨given, none, false⟩ : Reading).Settles given :=
  ⟨rfl, rfl⟩

theorem foldlM_read_cons (first : reading.read argument = .ok next) (rest : List String) :
    (argument :: rest).foldlM Reading.read reading = rest.foldlM Reading.read next := by
  rw [List.foldlM_cons, first]
  rfl

theorem supply_bind (fresh : given.has option = false) (nonempty : value ≠ "") :
    (supply given option value >>= fun given => .ok (Reading.mk given none false)) =
      .ok ⟨given.supplied option value, none, false⟩ := by
  have admitted : option.admits value = true := by simp [Valued.admits, nonempty]
  unfold supply
  rw [fresh, admitted]
  rfl

theorem Settles.long_separate (h : reading.Settles given) (option : Valued) :
    reading.long (Known.valued option).name none = .ok ⟨given, some (option, none), false⟩ := by
  unfold Reading.long
  rw [Known.ofName?_name, h.settle]
  rfl

theorem Settles.long_attached (h : reading.Settles given) (fresh : given.has option = false)
    (nonempty : value ≠ "") : reading.long (Known.valued option).name (some value) =
      .ok ⟨given.supplied option value, none, false⟩ := by
  unfold Reading.long
  rw [Known.ofName?_name, h.settle]
  exact supply_bind fresh nonempty

theorem settles_pending (fresh : given.has option = false) (nonempty : value ≠ "") :
    Settles ⟨given, some (option, some value), false⟩ (given.supplied option value) := by
  constructor
  · rfl
  · exact supply_bind fresh nonempty

theorem Settles.raise_verbose (h : reading.Settles given) :
    reading.raise .verbose = .ok ⟨given.raised 1, none, false⟩ := by
  unfold Reading.raise
  rw [h.settle]
  rfl

theorem Settles.long_verbose (h : reading.Settles given) :
    reading.long (Known.flag .verbose).name none = .ok ⟨given.raised 1, none, false⟩ := by
  unfold Reading.long
  rw [Known.ofName?_name]
  exact h.raise_verbose

theorem Settles.long_disableAlignment (h : reading.Settles given)
    (enabled : given.alignmentDisabled = false) :
    reading.long (Known.flag .disableAlignment).name none =
      .ok ⟨{ given with alignmentDisabled := true }, none, false⟩ := by
  unfold Reading.long
  rw [Known.ofName?_name]
  simp only [Reading.raise, h.settle]
  exact if_neg (Bool.eq_false_iff.mp enabled)

theorem Settles.short_cons (h : reading.Settles given) (letters : List Char) :
    reading.short ('v' :: letters) = Reading.short ⟨given.raised 1, none, false⟩ letters := by
  calc reading.short ('v' :: letters)
      = (reading.raise .verbose >>= fun next => next.short letters) := rfl
    _ = Reading.short ⟨given.raised 1, none, false⟩ letters := by rw [h.raise_verbose]; rfl

theorem Settles.read_apart (h : reading.Settles given) (fresh : given.has option = false)
    (nonempty : value ≠ "") (plain : value.toList.head? ≠ some '-') :
    ∃ next, (Piece.apart option.name value).arguments.foldlM Reading.read reading = .ok next ∧
      next.Settles (given.supplied option value) := by
  have waits : reading.read ("--" ++ option.name) = .ok ⟨given, some (option, none), false⟩ :=
    (read_separate h.running (.valued option)).trans (h.long_separate option)
  have taken : Reading.read ⟨given, some (option, none), false⟩ value =
      .ok ⟨given, some (option, some value), false⟩ := read_plain rfl plain
  exact ⟨_, (foldlM_read_cons waits _).trans (foldlM_read_cons taken _),
    settles_pending fresh nonempty⟩

theorem Settles.read_joined (h : reading.Settles given) (fresh : given.has option = false)
    (nonempty : value ≠ "") :
    ∃ next, (Piece.joined option.name value).arguments.foldlM Reading.read reading = .ok next ∧
      next.Settles (given.supplied option value) := by
  have taken : reading.read ("--" ++ option.name ++ "=" ++ value) =
      .ok ⟨given.supplied option value, none, false⟩ :=
    (read_attached h.running (.valued option) value).trans (h.long_attached fresh nonempty)
  exact ⟨_, foldlM_read_cons taken _, settles_given _⟩

theorem Settles.short (h : reading.Settles given)
    (bound : given.verbosity ≤ Given.maxVerbosity) (n : Nat) : ∃ next,
      reading.short (List.replicate n 'v') = .ok next ∧ next.Settles (given.raised n) := by
  induction n generalizing reading given with
  | zero =>
    have same : given.raised 0 = given := by
      rw [Given.raised, Nat.add_zero, Nat.min_eq_left bound]
    refine ⟨reading, rfl, ?_⟩
    rw [same]
    exact h
  | succ n ih =>
    have same : (given.raised 1).raised n = given.raised (n + 1) := by
      simp only [Given.raised]
      congr 1
      omega
    obtain ⟨next, rest, settles⟩ := ih (settles_given (given.raised 1)) (Nat.min_le_right _ _)
    rw [same] at settles
    refine ⟨next, ?_, settles⟩
    rw [List.replicate_succ, h.short_cons]
    exact rest

/-- Once all options that must be given are there, the reading ends well. -/
theorem Settles.finish (h : reading.Settles given)
    (complete : ∀ option : Valued, option.isRequired = true → given.has option = true) :
    reading.finish = .ok given := by
  have none : (Valued.all.any fun option => option.isRequired && !given.has option) = false := by
    rw [List.any_eq_false]
    intro option _
    by_cases required : option.isRequired = true
    · simp [complete option required]
    · simp [required]
  unfold Reading.finish
  rw [h.settle]
  exact if_neg (Bool.eq_false_iff.mp none)

end Reading

/-! ### Pieces, one after another -/

def named (given : Valued × String) : String × String := (given.1.name, given.2)

structure Readable (pieces : List Piece) : Prop where
  known : ∀ pair ∈ pieces.filterMap Piece.option?,
    ∃ option : Valued, option.name = pair.1 ∧ pair.2 ≠ "" ∧ pair.2.toList.head? ≠ some '-'
  once : ((pieces.filterMap Piece.option?).map Prod.fst).Nodup
  disabling : pieces.count .disabling ≤ 1

/-- What some pieces say, and nothing else, was given. -/
structure Given.Holds (given : Given) (pieces : List Piece) : Prop where
  values : (given.values.map named).Perm (pieces.filterMap Piece.option?)
  verbosity : given.verbosity = min (pieces.map Piece.increments).sum Given.maxVerbosity
  alignmentDisabled : given.alignmentDisabled = decide (pieces.count .disabling = 1)

open Reading

variable {reading : Reading} {given : Given} {before after pieces : List Piece} {piece : Piece}
  {option : Valued} {name value : String}

theorem holds_nothing : Given.nothing.Holds [] := by
  constructor
  · exact List.Perm.nil
  · rfl
  · rfl

/-- An option that is still to come was not given before. -/
theorem has_eq_false (holds : given.Holds before) (readable : Readable (before ++ piece :: after))
    (gives : piece.option? = some (option.name, value)) : given.has option = false := by
  have once := readable.once
  rw [List.filterMap_append, List.map_append, List.nodup_append] at once
  by_contra already
  rw [Bool.not_eq_false, Given.has, Option.isSome_iff_exists] at already
  obtain ⟨other, found⟩ := already
  obtain ⟨front, back, split, -⟩ := List.lookup_eq_some_iff.mp found
  have mem : (option, other) ∈ given.values := by simp [split]
  have earlier := holds.values.mem_iff.mp (List.mem_map_of_mem (f := named) mem)
  have later : (option.name, value) ∈ (piece :: after).filterMap Piece.option? := by simp [gives]
  exact once.2.2 _ (List.mem_map_of_mem earlier) _ (List.mem_map_of_mem later) rfl

namespace Given.Holds

theorem supplied (holds : given.Holds before) (gives : piece.option? = some (option.name, value)) :
    (given.supplied option value).Holds (before ++ [piece]) := by
  have silent : piece.increments = 0 ∧ piece ≠ .disabling := by
    cases piece <;> simp_all [Piece.option?, Piece.increments]
  constructor
  · rw [List.filterMap_append, List.filterMap_cons, gives]
    exact (holds.values.cons _).trans (List.perm_append_singleton _ _).symm
  · simp [Given.supplied, holds.verbosity, silent.1]
  · simp [Given.supplied, holds.alignmentDisabled, List.count_append, silent.2]

theorem raised (holds : given.Holds before) (piece : Piece) (gives : piece.option? = none)
    (other : piece ≠ .disabling) : (given.raised piece.increments).Holds (before ++ [piece]) := by
  constructor
  · simpa [Given.raised, gives] using holds.values
  · simp only [Given.raised, holds.verbosity, List.map_append, List.map_cons, List.map_nil,
      List.sum_append, List.sum_singleton]
    omega
  · simp [Given.raised, holds.alignmentDisabled, List.count_append, other]

theorem disabled (holds : given.Holds before) (first : before.count .disabling = 0) :
    Given.Holds { given with alignmentDisabled := true } (before ++ [.disabling]) := by
  constructor
  · have gives : Piece.option? .disabling = none := rfl
    simpa [gives] using holds.values
  · simpa [Piece.increments] using holds.verbosity
  · simp [List.count_append, first]

theorem verbosity_le (holds : given.Holds before) : given.verbosity ≤ Given.maxVerbosity := by
  rw [holds.verbosity]
  exact Nat.min_le_right _ _

end Given.Holds

/-- One piece is read, and what it says is given. -/
theorem exists_read_piece (settles : reading.Settles given) (holds : given.Holds before)
    (readable : Readable (before ++ piece :: after)) :
    ∃ next given', piece.arguments.foldlM Reading.read reading = .ok next ∧
      next.Settles given' ∧ given'.Holds (before ++ [piece]) := by
  cases piece with
  | apart name value =>
    obtain ⟨option, rfl, nonempty, plain⟩ :=
      readable.known (name, value) (by simp [Piece.option?])
    have fresh := has_eq_false holds readable rfl
    obtain ⟨next, read, settles⟩ := settles.read_apart fresh nonempty plain
    exact ⟨next, _, read, settles, holds.supplied rfl⟩
  | joined name value =>
    obtain ⟨option, rfl, nonempty, -⟩ := readable.known (name, value) (by simp [Piece.option?])
    have fresh := has_eq_false holds readable rfl
    obtain ⟨next, read, settles⟩ := settles.read_joined fresh nonempty
    exact ⟨next, _, read, settles, holds.supplied rfl⟩
  | disabling =>
    have first : before.count .disabling = 0 := by
      have once := readable.disabling
      rw [List.count_append, List.count_cons_self] at once
      omega
    have enabled : given.alignmentDisabled = false := by simp [holds.alignmentDisabled, first]
    have read := (read_separate settles.running (.flag .disableAlignment)).trans
      (settles.long_disableAlignment enabled)
    exact ⟨_, _, foldlM_read_cons read _, settles_given _, holds.disabled first⟩
  | letters more =>
    obtain ⟨next, read, settled⟩ := settles.short holds.verbosity_le (more + 1)
    have read := (read_letters settles.running more).trans read
    exact ⟨next, _, foldlM_read_cons read _, settled, holds.raised (.letters more) rfl nofun⟩
  | verbose =>
    have read := (read_separate settles.running (.flag .verbose)).trans settles.long_verbose
    exact ⟨_, _, foldlM_read_cons read _, settles_given _, holds.raised .verbose rfl nofun⟩

theorem exists_read (settles : reading.Settles given) (holds : given.Holds before)
    (readable : Readable (before ++ pieces)) :
    ∃ next given', (pieces.flatMap Piece.arguments).foldlM Reading.read reading = .ok next ∧
      next.Settles given' ∧ given'.Holds (before ++ pieces) := by
  induction pieces generalizing reading given before with
  | nil =>
    refine ⟨reading, given, rfl, settles, ?_⟩
    rwa [List.append_nil]
  | cons piece pieces ih =>
    obtain ⟨middle, given', first, settles, holds⟩ := exists_read_piece settles holds readable
    rw [List.append_cons] at readable ⊢
    obtain ⟨next, given'', rest, settles, holds⟩ := ih settles holds readable
    refine ⟨next, given'', ?_, settles, holds⟩
    rw [List.flatMap_cons, List.foldlM_append, first]
    exact rest

/-! ### Choices -/

theorem lookup_eq_of_perm {α β : Type} [BEq α] [LawfulBEq α] {l l' : List (α × β)}
    (perm : l.Perm l') (once : (l.map Prod.fst).Nodup) (a : α) : l.lookup a = l'.lookup a := by
  induction perm with
  | nil => rfl
  | cons pair perm ih =>
    rw [List.map_cons, List.nodup_cons] at once
    rw [List.lookup_cons, List.lookup_cons, ih once.2]
  | swap first second l =>
    obtain ⟨⟨key, value⟩, ⟨key', value'⟩⟩ := first, second
    have differ : key ≠ key' := by
      rintro rfl
      simp at once
    simp only [List.lookup_cons]
    by_cases same : a = key
    · subst same
      simp [beq_eq_false_iff_ne.mpr differ]
    · simp [beq_eq_false_iff_ne.mpr same]
  | trans first second ih ih' =>
    rw [ih once, ih' ((first.map Prod.fst).nodup_iff.mp once)]

theorem Valued.name_injective : Function.Injective Valued.name := by
  intro option option' same
  have found := Known.ofName?_name (.valued option)
  have found' := Known.ofName?_name (.valued option')
  have names : (Known.valued option).name = (Known.valued option').name := same
  rw [names, found'] at found
  cases found
  rfl

theorem named_injective : Function.Injective named := by
  rintro ⟨option, value⟩ ⟨option', value'⟩ same
  obtain ⟨names, values⟩ := Prod.mk.inj same
  exact Prod.ext (Valued.name_injective names) values

namespace Choice

variable {choice : Choice}

theorem options_eq (choice : Choice) : choice.options = choice.values.map named := by
  obtain ⟨_, _, _, _, _, _, _, viewerMarker?, layerMarker?, _, _⟩ := choice
  cases viewerMarker? <;> cases layerMarker? <;> rfl

theorem nodup_values (choice : Choice) : (choice.values.map Prod.fst).Nodup := by
  obtain ⟨_, _, _, _, _, _, _, viewerMarker?, layerMarker?, _, _⟩ := choice
  cases viewerMarker? <;> cases layerMarker? <;> simp [values, operands]

theorem isSome_lookup (choice : Choice) (required : option.isRequired = true) :
    (choice.values.lookup option).isSome = true := by
  cases option
  case viewerMarker => cases required
  case layerMarker => cases required
  all_goals rfl

theorem Arranged.readable (h : choice.Arranged pieces) : Readable pieces := by
  constructor
  · intro pair mem
    rw [h.options.mem_iff, options_eq, values, List.map_map, List.mem_map] at mem
    obtain ⟨⟨option, operand⟩, -, rfl⟩ := mem
    exact ⟨option, rfl, operand.nonempty, operand.plain⟩
  · have names : (choice.values.map named).map Prod.fst =
        (choice.values.map Prod.fst).map Valued.name := by
      rw [List.map_map, List.map_map]
      rfl
    rw [(h.options.map Prod.fst).nodup_iff, options_eq, names]
    exact choice.nodup_values.map Valued.name_injective
  · rw [h.disabling]
    split <;> decide

/-- An arrangement gives each option the value that was chosen for it, and no other option one. -/
theorem Arranged.lookup (h : choice.Arranged pieces) (holds : given.Holds pieces)
    (option : Valued) : given.values.lookup option = choice.values.lookup option := by
  have perm := holds.values.trans h.options
  rw [options_eq, List.map_perm_map_iff named_injective] at perm
  exact (lookup_eq_of_perm perm.symm choice.nodup_values option).symm

theorem Arranged.alignmentDisabled (h : choice.Arranged pieces) (holds : given.Holds pieces) :
    given.alignmentDisabled = choice.alignmentDisabled := by
  rw [holds.alignmentDisabled, h.disabling]
  cases choice.alignmentDisabled <;> rfl

theorem Arranged.config (h : choice.Arranged pieces) (holds : given.Holds pieces) :
    given.config = choice.config := by
  unfold Given.config Given.value
  rw [h.alignmentDisabled holds, holds.verbosity, h.increments]
  simp only [h.lookup holds]
  obtain ⟨_, _, _, _, _, _, _, viewerMarker?, layerMarker?, _, _⟩ := choice
  cases viewerMarker? <;> cases layerMarker? <;> rfl

theorem Arranged.tools (h : choice.Arranged pieces) (holds : given.Holds pieces) :
    given.value .exporter = choice.exporter.text ∧
      given.value .importer = choice.importer.text := by
  unfold Given.value
  rw [h.lookup holds, h.lookup holds]
  exact ⟨rfl, rfl⟩

theorem Arranged.exists_ofArguments (h : choice.Arranged pieces) :
    ∃ given, Given.ofArguments (pieces.flatMap Piece.arguments) = .ok given ∧
      given.Holds pieces := by
  obtain ⟨next, given, read, settles, holds⟩ :=
    exists_read (settles_given Given.nothing) holds_nothing h.readable
  rw [List.nil_append] at holds
  have complete (option : Valued) (required : option.isRequired = true) :
      given.has option = true := by
    rw [Given.has, h.lookup holds]
    exact choice.isSome_lookup required
  refine ⟨given, ?_, holds⟩
  unfold Given.ofArguments
  have start : Reading.start = ⟨Given.nothing, none, false⟩ := rfl
  rw [start, read]
  exact settles.finish complete

end Choice

theorem run_congr {given given' : Given} (config : given.config = given'.config)
    (tools : Toolset) (asked? : Option String) (files : Files) :
    run tools given asked? files = run tools given' asked? files := by
  unfold run
  rw [config]

/-- However a choice is written down, it is understood, and each value goes to its own option:
markers that are left out are the standard ones, and verbosity counts up to 255. So all arrangements
of a choice are the same call. -/
theorem options_in_any_order {choice : Choice} {pieces : List Piece}
    (arranged : choice.Arranged pieces) :
    ∃ given, Given.ofArguments (pieces.flatMap Piece.arguments) = .ok given ∧
      given.config = choice.config ∧ given.value .exporter = choice.exporter.text ∧
      given.value .importer = choice.importer.text ∧
      ∀ other, choice.Arranged other → ∀ toolsAt asked? files,
        callWith toolsAt (other.flatMap Piece.arguments) asked? files =
          callWith toolsAt (pieces.flatMap Piece.arguments) asked? files := by
  obtain ⟨given, understood, holds⟩ := arranged.exists_ofArguments
  have config := arranged.config holds
  have tools := arranged.tools holds
  refine ⟨given, understood, config, tools.1, tools.2, ?_⟩
  intro other arranged' toolsAt asked? files
  obtain ⟨given', understood', holds'⟩ := arranged'.exists_ofArguments
  have config' := arranged'.config holds'
  have tools' := arranged'.tools holds'
  unfold callWith
  rw [understood, understood']
  simp only [tools.1, tools.2, tools'.1, tools'.2]
  exact run_congr (config'.trans config.symm) _ asked? files

/-- Both spellings of values, one marker left out, and more repetitions than count. -/
theorem options_in_any_order_mixed :
    let choice : Choice :=
      { viewerTrace := ⟨"v.tracy", by decide, by decide⟩
        layerTrace := ⟨"l=1.tracy", by decide, by decide⟩
        outputTrace := ⟨"out.tracy", by decide, by decide⟩
        summary := ⟨"summary.json", by decide, by decide⟩
        exporter := ⟨"export", by decide, by decide⟩
        importer := ⟨"import", by decide, by decide⟩
        interchange := ⟨"merged.json", by decide, by decide⟩
        viewerMarker? := some ⟨"frame", by decide, by decide⟩
        layerMarker? := none
        alignmentDisabled := true
        increments := 258 }
    let pieces : List Piece :=
      [.letters 255, .apart "chrome-out" "merged.json", .joined "layer-trace" "l=1.tracy",
        .disabling, .joined "viewer-marker" "frame", .apart "output-trace" "out.tracy", .verbose,
        .joined "import-chrome-bin" "import", .apart "csvexport-bin" "export",
        .joined "viewer-trace" "v.tracy", .apart "summary-out" "summary.json", .letters 0]
    choice.Arranged pieces ∧
      ∃ given, Given.ofArguments (pieces.flatMap Piece.arguments) = .ok given ∧
        given.config = choice.config ∧ given.config.verbosity = 255 ∧
        given.config.layerMarker = "goggles_layer_frame" := by
  intro choice pieces
  have arranged : choice.Arranged pieces := by
    constructor
    · decide +kernel
    · decide
    · decide
  obtain ⟨given, understood, config, -⟩ := options_in_any_order arranged
  refine ⟨arranged, given, understood, config, ?_, ?_⟩
  · rw [config]
    decide
  · rw [config]
    rfl

end TraceWeave.CommandLine
