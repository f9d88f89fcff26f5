import Stencil.CommandLine.Invocation
import Stencil.Proofs.Text.Occurrence
import Stencil.Proofs.Mapping.Entries

/-!
Every invocation can be asked for. A switch is spelled in full, with its value attached, so that no word can
be taken for another switch or for a plain word, whatever the value is. Two dashes are the one value that
cannot be given: attached to a switch they are no value, and an invocation in which a switch has none is
spelled that way.

What is proved of a command line is proved for each of its words, and carried along the line by `apply_step`.
-/

namespace Stencil.CommandLine

def Switch.spelling (switch : Switch) : Text :=
  (switch.names.getLastD "").toList

inductive Request
  | give (switch : Switch) (argument : Argument)
  | turn (switch : Switch)
  deriving DecidableEq, Repr

namespace Request

/-- A request that a word can make, and that leads on to a run. -/
def IsPlain : Request → Prop
  | give switch argument => switch.takesValue = true ∧ argument ≠ .text ['-', '-']
  | turn switch => switch ∈ [.noVariables, .enableDefault, .withFiles]

def attached (argument : Argument) : Text :=
  argument.value?.getD ['-', '-']

def word : Request → Text
  | give switch argument => switch.spelling ++ '=' :: attached argument
  | turn switch => switch.spelling

def onto (invocation : Invocation) : Request → Invocation
  | give switch argument => invocation.give argument switch
  | turn .noVariables => { invocation with noVariables := true }
  | turn .enableDefault => { invocation with enableDefault := true }
  | turn .withFiles => { invocation with withFiles := true }
  | turn _ => invocation

theorem ofAttached_attached {argument : Argument} (h : argument ≠ .text ['-', '-']) :
    Argument.ofAttached (attached argument) = argument := by
  cases argument with
  | nothing => rfl
  | text value =>
    have hvalue : value ≠ ['-', '-'] := fun hvalue => h (by rw [hvalue])
    simp [Argument.ofAttached, attached, Argument.value?, hvalue]

end Request

/-! ### One word -/

theorem Switch.ofSpelling?_eq_none {spelling : Text} (h : '=' ∈ spelling) :
    Switch.ofSpelling? spelling = none := by
  have hall : ∀ entry ∈ Switch.spellings, '=' ∉ entry.1 := by decide
  cases hfound : Switch.ofSpelling? spelling with
  | none => rfl
  | some switch => exact absurd h (hall _ (Mapping.mem_of_get? hfound))

theorem Switch.spelling_spec (switch : Switch) :
    '=' ∉ switch.spelling ∧ Switch.ofSpelling? switch.spelling = some switch := by
  cases switch <;> decide

theorem Switch.exists_spelling_eq (switch : Switch) :
    ∃ c more, switch.spelling = '-' :: '-' :: c :: more := by
  cases switch <;> exact ⟨_, _, rfl⟩

theorem classify_give (switch : Switch) (argument : Argument) :
    classify (Request.give switch argument).word =
      .ok (.switch switch switch.spelling (some (Request.attached argument))) := by
  obtain ⟨hsign, hswitch⟩ := switch.spelling_spec
  obtain ⟨c, more, hspelling⟩ := switch.exists_spelling_eq
  have hhead : (Request.give switch argument).word.head? = some '-' := by
    rw [Request.word, hspelling]
    rfl
  have hlength : (Request.give switch argument).word.length ≠ 1 := by
    rw [Request.word, hspelling]
    simp
  have hnone : Switch.ofSpelling? (Request.give switch argument).word = none :=
    Switch.ofSpelling?_eq_none (by simp [Request.word])
  have hattached : attachedValue (Request.give switch argument).word =
      (switch.spelling, some (Request.attached argument)) := by
    rw [attachedValue, Request.word, Text.cut?_singleton hsign]
  -- The whole word is no spelling, since it holds an equals sign; the part before the sign is one.
  rw [classify, if_neg (by simp [hhead]), hnone]
  simp only [if_neg hlength, hattached, hswitch]

theorem classify_turn (switch : Switch) :
    classify (Request.turn switch).word = .ok (.switch switch switch.spelling none) := by
  obtain ⟨-, hswitch⟩ := switch.spelling_spec
  obtain ⟨c, more, hspelling⟩ := switch.exists_spelling_eq
  have hhead : switch.spelling.head? = some '-' := by
    rw [hspelling]
    rfl
  rw [Request.word, classify, if_neg (by simp [hhead]), hswitch]

namespace Request

def taken : Request → Word
  | give switch argument => .switch switch switch.spelling (some (attached argument))
  | turn switch => .switch switch switch.spelling none

theorem classify_word (request : Request) : classify request.word = .ok request.taken := by
  cases request with
  | give switch argument => exact classify_give switch argument
  | turn switch => exact classify_turn switch

theorem word_ne_dashes (request : Request) : request.word ≠ ['-', '-'] := by
  cases request with
  | give switch _ | turn switch =>
    obtain ⟨c, more, hspelling⟩ := switch.exists_spelling_eq
    simp [word, hspelling]

end Request

/-! ### The words of a line -/

theorem classifyAll_words (requests : List Request) :
    classifyAll (requests.map Request.word) =
      .ok (requests.map fun request => (request.word, request.taken)) := by
  induction requests with
  | nil => rfl
  | cons request requests ih =>
    rw [List.map_cons, classifyAll, if_neg request.word_ne_dashes, request.classify_word, ih]
    rfl

theorem apply_step {request : Request} (h : request.IsPlain) (invocation : Invocation)
    (extras : List Text) (words : List (Text × Word)) :
    apply invocation extras ((request.word, request.taken) :: words) =
      apply (request.onto invocation) extras words := by
  cases request with
  | give switch argument =>
    obtain ⟨htakes, hargument⟩ := h
    rw [Request.taken, apply, if_pos htakes]
    simp only [Request.ofAttached_attached hargument]
    rfl
  | turn switch =>
    obtain rfl | rfl | rfl : switch = .noVariables ∨ switch = .enableDefault ∨ switch = .withFiles := by
      simpa [Request.IsPlain] using h
    all_goals
      rw [apply.eq_def]
      rfl

theorem parse_words {requests : List Request} (h : ∀ request ∈ requests, request.IsPlain) :
    parse (requests.map Request.word) = .ok (.run (requests.foldl Request.onto {})) := by
  -- The words take effect on whatever the words before them have made, so the induction is for all that.
  have hline : ∀ invocation : Invocation,
      apply invocation [] (requests.map fun request => (request.word, request.taken)) =
        .ok (.run (requests.foldl Request.onto invocation)) := by
    induction requests with
    | nil => exact fun _ => rfl
    | cons request requests ih =>
      intro invocation
      rw [List.map_cons, apply_step (h request List.mem_cons_self),
        ih fun other hother => h other (List.mem_cons_of_mem _ hother)]
      rfl
  rw [parse, classifyAll_words]
  exact hline {}

/-! ### The words for an invocation -/

namespace Invocation

/-- The requests that make an invocation. -/
def requests (invocation : Invocation) : List Request :=
  (invocation.text.map (Request.give .text)).toList ++
    invocation.definitions.map (Request.give .define) ++
    (invocation.variableFile.map (Request.give .variableFile)).toList ++
    (if invocation.noVariables then [.turn .noVariables] else []) ++
    (if invocation.enableDefault then [.turn .enableDefault] else []) ++
    (invocation.separator.map (Request.give .separator)).toList ++
    (invocation.opening.map (Request.give .opening)).toList ++
    (invocation.closing.map (Request.give .closing)).toList ++
    (if invocation.withFiles then [.turn .withFiles] else [])

/-- The words of a command line that asks for an invocation. -/
def spelled (invocation : Invocation) : List Text :=
  invocation.requests.map Request.word

def arguments (invocation : Invocation) : List Argument :=
  invocation.text.toList ++ invocation.definitions ++ invocation.variableFile.toList ++
    invocation.separator.toList ++ invocation.opening.toList ++ invocation.closing.toList

theorem foldl_define (invocation : Invocation) (definitions : List Argument) :
    (definitions.map (Request.give .define)).foldl Request.onto invocation =
      { invocation with definitions := invocation.definitions ++ definitions } := by
  induction definitions generalizing invocation with
  | nil => simp
  | cons definition definitions ih =>
    rw [List.map_cons, List.foldl_cons, ih]
    simp [Request.onto, give]

theorem foldl_requests (invocation : Invocation) :
    invocation.requests.foldl Request.onto {} = invocation := by
  obtain ⟨text, definitions, file, noVariables, enableDefault, separator, opening, closing, withFiles⟩ :=
    invocation
  -- The requests of each kind set one field, and each starts from a field that is not set yet.
  have htext (i : Invocation) : (text.map (Request.give .text)).toList.foldl Request.onto i =
      { i with text := text.or i.text } := by cases text <;> rfl
  have hfile (i : Invocation) : (file.map (Request.give .variableFile)).toList.foldl Request.onto i =
      { i with variableFile := file.or i.variableFile } := by cases file <;> rfl
  have hseparator (i : Invocation) : (separator.map (Request.give .separator)).toList.foldl Request.onto i =
      { i with separator := separator.or i.separator } := by cases separator <;> rfl
  have hopening (i : Invocation) : (opening.map (Request.give .opening)).toList.foldl Request.onto i =
      { i with opening := opening.or i.opening } := by cases opening <;> rfl
  have hclosing (i : Invocation) : (closing.map (Request.give .closing)).toList.foldl Request.onto i =
      { i with closing := closing.or i.closing } := by cases closing <;> rfl
  have hnone (i : Invocation) : (if noVariables then [Request.turn .noVariables] else []).foldl
      Request.onto i = { i with noVariables := noVariables || i.noVariables } := by
    cases noVariables <;> rfl
  have hdefault (i : Invocation) : (if enableDefault then [Request.turn .enableDefault] else []).foldl
      Request.onto i = { i with enableDefault := enableDefault || i.enableDefault } := by
    cases enableDefault <;> rfl
  have hfiles (i : Invocation) : (if withFiles then [Request.turn .withFiles] else []).foldl
      Request.onto i = { i with withFiles := withFiles || i.withFiles } := by
    cases withFiles <;> rfl
  simp [requests, List.foldl_append, foldl_define, htext, hfile, hseparator, hopening, hclosing, hnone,
    hdefault, hfiles]

theorem mem_requests {invocation : Invocation} {request : Request} (h : request ∈ invocation.requests) :
    (∃ switch argument, request = .give switch argument ∧ switch.takesValue = true ∧
      argument ∈ invocation.arguments) ∨
    ∃ switch ∈ [.noVariables, .enableDefault, .withFiles], request = .turn switch := by
  have hturn (switch : Switch) (turned : Bool) (hmem : request ∈ if turned then [.turn switch] else []) :
      request = .turn switch := by
    cases turned <;> simp_all
  simp only [requests, List.mem_append, List.mem_map, Option.mem_toList,
    Option.map_eq_some_iff] at h
  rcases h with (((((((⟨argument, hmem, rfl⟩ | ⟨argument, hmem, rfl⟩) | ⟨argument, hmem, rfl⟩) | h) | h) |
    ⟨argument, hmem, rfl⟩) | ⟨argument, hmem, rfl⟩) | ⟨argument, hmem, rfl⟩) | h
  case inr | inl.inl.inl.inl.inl.inr | inl.inl.inl.inl.inr => exact .inr ⟨_, by simp, hturn _ _ h⟩
  all_goals exact .inl ⟨_, argument, rfl, rfl, by simp [arguments, hmem]⟩

theorem isPlain_of_mem_requests {invocation : Invocation}
    (h : .text ['-', '-'] ∉ invocation.arguments) : ∀ request ∈ invocation.requests, request.IsPlain := by
  intro request hrequest
  rcases mem_requests hrequest with ⟨switch, argument, rfl, htakes, hmem⟩ | ⟨switch, hmem, rfl⟩
  · exact ⟨htakes, fun hdashes => h (hdashes ▸ hmem)⟩
  · exact hmem

/-- An invocation can be asked for unless two dashes are a value in it. -/
theorem parse_spelled {invocation : Invocation} (h : .text ['-', '-'] ∉ invocation.arguments) :
    parse invocation.spelled = .ok (.run invocation) := by
  rw [spelled, parse_words (isPlain_of_mem_requests h), foldl_requests]

end Invocation

end Stencil.CommandLine
