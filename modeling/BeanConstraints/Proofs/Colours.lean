/-
# Colours come off

A diagnostic in colour and a plain one differ in nothing but the colours: what is left of
the first when its colour sequences are taken out is the second. Texts that come from
elsewhere are left alone as long as no escape character is in them, even where they look
like the rest of a sequence. What is left does not depend on what follows, so the parts
of a diagnostic are shown to agree one by one and are put together after that.

The diagnostics of faults hold the texts of the fault and those of the cause right behind
it, and otherwise words of their own, which have no escape character.
-/

import BeanConstraints.Fault

namespace BeanConstraints

namespace Text

/-- What is left of a text without its colour sequences. A sequence begins with the escape
character and a bracket and ends with the next letter m; without such a letter there is none. -/
def pale (inside : Bool) : List Char → List Char
  | [] => []
  | c :: rest =>
      if inside then pale (c != 'm') rest
      else if c = '\x1b' ∧ rest.head? = some '[' ∧ 'm' ∈ rest then pale true rest
      else c :: pale false rest

/-- A text without its colour sequences. -/
def uncoloured (s : String) : String :=
  String.ofList (pale false s.toList)

/-- A text in which no sequence can begin. -/
def Clean (s : String) : Prop :=
  '\x1b' ∉ s.toList

namespace Clean

variable {first second name : String}

theorem append (before : Clean first) (behind : Clean second) : Clean (first ++ second) := by
  rw [Clean, String.toList_append, List.mem_append]
  exact not_or.mpr ⟨before, behind⟩

/-- A fixed word is clean if none of its characters is the escape character. -/
theorem word {cs : List Char} (free : decide ('\x1b' ∈ cs) = false) :
    Clean (String.ofList cs) := by
  rw [Clean, String.toList_ofList]
  exact of_decide_eq_false free

theorem join {lines : List String} (clean : ∀ line ∈ lines, Clean line) :
    Clean (String.join lines) := by
  rw [Clean, String.toList_join, List.mem_flatMap]
  rintro ⟨line, listed, within⟩
  exact clean line listed within

/-- Numbers are written in digits. -/
theorem number (n : Nat) : Clean (toString n) := by
  intro within
  have digit : '\x1b' ∈ Nat.toDigits 10 n := Nat.toList_repr ▸ within
  exact absurd (Nat.isDigit_of_mem_toDigits (by decide) (by decide) digit) (by decide)

end Clean

/-- One text becomes the other when its sequences are taken out, whatever follows. -/
def Pales (coloured plain : String) : Prop :=
  ∀ rest, pale false (coloured.toList ++ rest) = plain.toList ++ pale false rest

theorem Pales.append {first second plain other : String} (before : Pales first plain)
    (behind : Pales second other) : Pales (first ++ second) (plain ++ other) := by
  intro rest
  rw [String.toList_append, String.toList_append, List.append_assoc, before, behind,
    List.append_assoc]

/-- The whole of a text is what is left if nothing follows. -/
theorem Pales.uncoloured {coloured plain : String} (pales : Pales coloured plain) :
    uncoloured coloured = plain := by
  have whole := pales []
  rw [List.append_nil, pale, List.append_nil] at whole
  rw [Text.uncoloured, whole, String.ofList_toList]

/-- Nothing is taken out of a text in which no sequence can begin. -/
theorem Clean.pales {s : String} (clean : Clean s) : Pales s s := by
  intro rest
  have kept (text : List Char) (free : '\x1b' ∉ text) :
      pale false (text ++ rest) = text ++ pale false rest := by
    induction text with
    | nil => rfl
    | cons c text ih =>
        rw [List.mem_cons, not_or] at free
        simp [pale, Ne.symm free.1, ih free.2]
  exact kept s.toList clean

/-- A sequence is taken out as a whole. -/
theorem pale_sequence (inner rest : List Char) (unended : 'm' ∉ inner) :
    pale false ('\x1b' :: '[' :: inner ++ 'm' :: rest) = pale false rest := by
  have skipped : pale true (inner ++ 'm' :: rest) = pale false rest := by
    induction inner with
    | nil => rfl
    | cons c inner ih =>
        rw [List.mem_cons, not_or] at unended
        have inside : (c != 'm') = true := bne_iff_ne.mpr (Ne.symm unended.1)
        rw [List.cons_append, pale, if_pos rfl, inside, ih unended.2]
  simpa [pale] using skipped

end Text

namespace Diagnostic

open Text

/-- A diagnostic that is made of clean texts. -/
structure Clean (diagnostic : Diagnostic) : Prop where
  message : Text.Clean diagnostic.message
  location : ∀ file ∈ diagnostic.location, Text.Clean file
  context : ∀ line ∈ diagnostic.context, Text.Clean line
  suggestions : ∀ line ∈ diagnostic.suggestions, Text.Clean line

/-- The lines of the section on suggestions, with all of them numbered from one on. There is none
if there are no suggestions. -/
def helpLines (suggestions : List String) : List String :=
  if suggestions = [] then []
  else "" :: "help: consider:" :: suggestions.mapIdx fun place suggestion =>
    "  " ++ toString (place + 1) ++ ". " ++ suggestion

/-- The lines of a diagnostic without colours: severity and message, the file if it is known, all
explanations, and the section on suggestions. -/
def lines (diagnostic : Diagnostic) : List String :=
  (diagnostic.severity.text ++ ": " ++ diagnostic.message) ::
    (diagnostic.location.toList.map ("  --> " ++ ·) ++ diagnostic.context.map ("  = " ++ ·) ++
      helpLines diagnostic.suggestions)

/-- The coloured form comes down to the plain one, which is what is shown and has these lines. -/
structure Agrees (diagnostic : Diagnostic) : Prop where
  uncoloured : uncoloured (diagnostic.render true) = diagnostic.render false
  shown : diagnostic.text = diagnostic.render false
  lines : diagnostic.render false = String.join (diagnostic.lines.map (· ++ "\n"))

section

variable {diagnostic : Diagnostic} {suggestions : List String}

/-- A word sheds its colour. -/
theorem pales_painted {colour word : String} (unended : 'm' ∉ colour.toList)
    (clean : Text.Clean word) : Pales (painted true colour word) (painted false colour word) := by
  intro rest
  have opening := pale_sequence ('1' :: ';' :: colour.toList)
    (word.toList ++ ("\x1b[0m".toList ++ rest)) (by simpa using unended)
  have closing := pale_sequence ['0'] rest (by decide)
  calc pale false ((painted true colour word).toList ++ rest)
      = pale false ('\x1b' :: '[' :: ('1' :: ';' :: colour.toList) ++
          'm' :: (word.toList ++ ("\x1b[0m".toList ++ rest))) := by simp [painted]
    _ = word.toList ++ pale false ("\x1b[0m".toList ++ rest) := by rw [opening, clean.pales]
    _ = (painted false colour word).toList ++ pale false rest := by
        rw [painted, if_neg Bool.false_ne_true, ← closing]
        rfl

/-- Suggestions are numbered on from the first number. -/
theorem numbered_eq (first : Nat) (suggestions : List String) :
    numbered first suggestions = (suggestions.mapIdx fun place suggestion =>
      "  " ++ toString (place + first) ++ ". " ++ suggestion).map (· ++ "\n") := by
  induction suggestions generalizing first with
  | nil => rfl
  | cons suggestion rest ih =>
      rw [numbered, ih, List.mapIdx_cons, List.map_cons, Nat.zero_add]
      simp only [Nat.add_assoc, Nat.add_comm 1]
      rfl

theorem clean_numbered {first : Nat} (clean : ∀ line ∈ suggestions, Text.Clean line) :
    ∀ line ∈ numbered first suggestions, Text.Clean line := by
  induction suggestions generalizing first with
  | nil => exact nofun
  | cons suggestion rest ih =>
      obtain ⟨here, others⟩ := List.forall_mem_cons.mp clean
      refine List.forall_mem_cons.mpr ⟨?_, ih others⟩
      have digits := Text.Clean.number first
      exact .append (.append (.append (.append (.word rfl) digits) (.word rfl)) here) (.word rfl)

theorem pales_help (clean : ∀ line ∈ suggestions, Text.Clean line) :
    Pales (help true suggestions) (help false suggestions) := by
  have newline : Text.Clean "\n" := .word rfl
  have consider : Text.Clean ": consider:\n" := .word rfl
  have word : Pales (painted true "32" "help") (painted false "32" "help") :=
    pales_painted (by decide) (.word rfl)
  have ways : Text.Clean (String.join (numbered 1 suggestions)) := .join (clean_numbered clean)
  unfold help
  split
  · exact Clean.pales (.word rfl)
  · exact ((newline.pales.append word).append consider.pales).append ways.pales

theorem clean_locationLine {location : Option String}
    (clean : ∀ file ∈ location, Text.Clean file) : Text.Clean (locationLine location) := by
  cases location with
  | none => exact .word rfl
  | some file => exact .append (.append (.word rfl) (clean file rfl)) (.word rfl)

/-- A clean diagnostic sheds its colours. -/
theorem Clean.pales_render (clean : diagnostic.Clean) :
    Pales (diagnostic.render true) (diagnostic.render false) := by
  have severity : Pales (painted true diagnostic.severity.colour diagnostic.severity.text)
      (painted false diagnostic.severity.colour diagnostic.severity.text) := by
    cases diagnostic.severity <;> exact pales_painted (by decide) (.word rfl)
  have colon : Text.Clean ": " := .word rfl
  have newline : Text.Clean "\n" := .word rfl
  have location := clean_locationLine clean.location
  have context : Text.Clean
      (String.join (diagnostic.context.map fun line => s!"  = {line}\n")) := by
    apply Text.Clean.join
    rw [List.forall_mem_map]
    intro line listed
    exact .append (.append (.word rfl) (clean.context line listed)) (.word rfl)
  exact (((((severity.append colon.pales).append clean.message.pales).append newline.pales).append
    location.pales).append context.pales).append (pales_help clean.suggestions)

theorem help_eq_join (suggestions : List String) :
    help false suggestions = String.join ((helpLines suggestions).map (· ++ "\n")) := by
  by_cases none : suggestions = []
  · simp [help, helpLines, none]
  · simp only [help, helpLines, List.isEmpty_iff, none, if_false, numbered_eq, painted,
      Bool.false_eq_true, List.map_cons, String.join_cons, String.append_assoc]
    rfl

theorem locationLine_eq_join (location : Option String) : locationLine location =
    String.join ((location.toList.map ("  --> " ++ ·)).map (· ++ "\n")) := by
  cases location <;> simp [locationLine, toString]

/-- The plain form has just its lines. -/
theorem render_eq_join (diagnostic : Diagnostic) :
    diagnostic.render false = String.join (diagnostic.lines.map (· ++ "\n")) := by
  have context : (diagnostic.context.map fun line => s!"  = {line}\n") =
      (diagnostic.context.map ("  = " ++ ·)).map (· ++ "\n") := by
    rw [List.map_map]
    rfl
  rw [render, context, locationLine_eq_join, help_eq_join, lines, List.map_cons, List.map_append,
    List.map_append, String.join_cons, String.join_append, String.join_append]
  simp only [String.append_assoc]
  rfl

theorem Clean.agrees (clean : diagnostic.Clean) : diagnostic.Agrees where
  uncoloured := clean.pales_render.uncoloured
  shown := rfl
  lines := render_eq_join diagnostic

theorem Clean.error {message : String} (clean : Text.Clean message) : (error message).Clean where
  message := clean
  location := nofun
  context := nofun
  suggestions := nofun

variable {line : String}

theorem Clean.withContext (clean : diagnostic.Clean) (more : Text.Clean line) :
    (diagnostic.withContext line).Clean where
  message := clean.message
  location := clean.location
  context := List.forall_mem_append.mpr ⟨clean.context, List.forall_mem_singleton.mpr more⟩
  suggestions := clean.suggestions

theorem Clean.withSuggestion (clean : diagnostic.Clean) (more : Text.Clean line) :
    (diagnostic.withSuggestion line).Clean where
  message := clean.message
  location := clean.location
  context := clean.context
  suggestions := List.forall_mem_append.mpr ⟨clean.suggestions, List.forall_mem_singleton.mpr more⟩

end

end Diagnostic

open Text

/-- The simple name of a constraint is a part of its name. -/
theorem Constraint.clean_simpleName {constraint : Constraint} (clean : Clean constraint.name) :
    Clean constraint.simpleName := by
  have inside (cs : List Char) (part : List Char) (listed : part ∈ cs.splitOnP isSeparator) :
      part ⊆ cs := by
    induction cs generalizing part with
    | nil => simp_all
    | cons c rest ih =>
        rw [List.splitOnP_cons_eq_if_modifyHead] at listed
        split at listed
        · rcases List.mem_cons.mp listed with rfl | later
          · exact List.nil_subset _
          · exact List.subset_cons_of_subset c (ih part later)
        · cases parts : rest.splitOnP isSeparator with
          | nil => exact absurd parts (List.splitOnP_ne_nil _ _)
          | cons first others =>
              rw [parts] at ih
              rw [parts, List.modifyHead_cons, List.mem_cons] at listed
              rcases listed with rfl | later
              · exact List.cons_subset_cons c (ih first List.mem_cons_self)
              · exact List.subset_cons_of_subset c (ih part (List.mem_cons_of_mem first later))
  rw [Clean, simpleName, String.toList_ofList, List.getLastD_eq_getLast?]
  intro within
  cases last : (constraint.name.toList.splitOnP isSeparator).getLast? with
  | none =>
      rw [last] at within
      cases within
  | some part =>
      rw [last] at within
      exact clean (inside _ part (List.mem_of_getLast? last) within)

/-- The contributor that an origin names. -/
def Origin.contributor? : Origin → Option String
  | preSupplied => none
  | discovered contributor => some contributor
  | propertyNamed contributor => some contributor

theorem Origin.clean_text {origin : Origin} (clean : ∀ name ∈ origin.contributor?, Clean name) :
    Clean origin.text := by
  cases origin with
  | preSupplied => exact .word rfl
  | discovered name => exact .append (.append (.word rfl) (clean name rfl)) (.word rfl)
  | propertyNamed name => exact .append (.append (.word rfl) (clean name rfl)) (.word rfl)

theorem Component.Kind.clean_text (kind : Kind) : Clean kind.text := by
  cases kind <;> exact .word rfl

theorem PropertyKey.clean_name (key : PropertyKey) : Clean key.name := by
  cases key <;> exact .word rfl

namespace Fault

/-- The texts that a fault holds of its own. -/
def texts : Fault → List String
  | inconsistentFailFast => []
  | duplicateDefinition constraint origin => constraint.name :: origin.contributor?.toList
  | componentLoad _ name reason => [name, reason]
  | scriptEvaluators name _ => [name]
  | missingParser _ => []
  | mappingParse stream message => [stream, message]
  | unsupportedUnwrap typeName => [typeName]

/-- The cause right behind a fault. -/
def cause? : Fault → Option Fault
  | scriptEvaluators _ cause => some cause
  | _ => none

variable {fault : Fault}

theorem clean_ticked {name : String} (clean : Clean name) : Clean (ticked name) :=
  .append (.append (.word rfl) clean) (.word rfl)

/-- The message of a fault has no text of its causes. -/
theorem clean_message (clean : ∀ text ∈ fault.texts, Clean text) : Clean fault.message := by
  cases fault with
  | inconsistentFailFast => exact .append (.word rfl) (clean_ticked (PropertyKey.clean_name _))
  | duplicateDefinition constraint origin =>
      have name := clean constraint.name (.head _)
      exact .append (.append (.word rfl) (clean_ticked name)) (.word rfl)
  | componentLoad kind name reason =>
      have named := clean name (.head _)
      have why := clean reason (.tail _ (.head _))
      exact .append (.append (.append (.append (.append (.word rfl) kind.clean_text) (.word rfl))
        (clean_ticked named)) (.word rfl)) why
  | scriptEvaluators name cause => exact .append (.word rfl) (clean_ticked (clean name (.head _)))
  | missingParser streams => exact .append (.number streams) (.word rfl)
  | mappingParse stream message =>
      have named := clean stream (.head _)
      have why := clean message (.tail _ (.head _))
      exact .append (.append (.append (.word rfl) (clean_ticked named)) (.word rfl)) why
  | unsupportedUnwrap typeName =>
      have name := clean typeName (.head _)
      exact .append (.append (.word rfl) (clean_ticked name)) (.word rfl)

/-- The diagnostic of a fault has the texts of the fault and those of the cause right behind it. -/
theorem clean_diagnostic (clean : ∀ text ∈ fault.texts, Clean text)
    (behind : ∀ cause ∈ fault.cause?, ∀ text ∈ cause.texts, Clean text) :
    fault.diagnostic.Clean := by
  have message := clean_message clean
  cases fault with
  | inconsistentFailFast =>
      have key := clean_ticked (PropertyKey.clean_name .failFast)
      exact (((Diagnostic.Clean.error message).withContext (.append key (.word rfl))).withSuggestion
        (.append (.append (.word rfl) key) (.word rfl))).withSuggestion (.word rfl)
  | duplicateDefinition constraint origin =>
      have name := clean constraint.name (.head _)
      have simpleName := constraint.clean_simpleName name
      have source := origin.clean_text fun contributor named =>
        clean contributor (List.mem_cons_of_mem _ (Option.mem_toList.mpr named))
      have title : Clean
          ("constraint " ++ ticked constraint.name ++ " is defined more than once") :=
        .append (.append (.word rfl) (clean_ticked name)) (.word rfl)
      have advice : Clean ("Keep a single definition of " ++ ticked constraint.simpleName ++
          " and use " ++ ticked "include_existing_validators" ++ " to extend it") :=
        .append (.append (.append (.append (.word rfl) (clean_ticked simpleName)) (.word rfl))
          (clean_ticked (.word rfl))) (.word rfl)
      exact ((Diagnostic.Clean.error title).withContext (.append (.word rfl) source)).withSuggestion
        advice
  | componentLoad kind name reason =>
      have named := clean name (.head _)
      have why := clean reason (.tail _ (.head _))
      have title : Clean s!"could not load {kind.text} {ticked name}" :=
        .append (.append (.append (.word rfl) kind.clean_text) (.word rfl)) (clean_ticked named)
      have failed := (Diagnostic.Clean.error title).withContext why
      cases kind with
      | mappingContributor =>
          have key := clean_ticked (PropertyKey.clean_name .contributors)
          exact ((failed.withContext (.append (.word rfl) key)).withSuggestion
            (.word rfl)).withSuggestion (.word rfl)
      | scriptEvaluators => exact (failed.withSuggestion (.word rfl)).withSuggestion (.word rfl)
  | scriptEvaluators name cause =>
      have named := clean name (.head _)
      have reason := clean_message (behind cause rfl)
      have key := clean_ticked (PropertyKey.clean_name .scriptEvaluators)
      exact (((Diagnostic.Clean.error message).withContext reason).withContext
        (.append (.append key (.word rfl)) (clean_ticked named))).withSuggestion (.word rfl)
  | missingParser streams => exact (Diagnostic.Clean.error message).withSuggestion (.word rfl)
  | mappingParse stream reason =>
      have named := clean stream (.head _)
      have why := clean reason (.tail _ (.head _))
      exact (Diagnostic.Clean.error (.append (.word rfl) (clean_ticked named))).withContext why
  | unsupportedUnwrap typeName =>
      have name := clean typeName (.head _)
      exact (Diagnostic.Clean.error message).withContext (.append (.word rfl) (clean_ticked name))

end Fault

/-- Colours come off every diagnostic that is made of clean texts, and off the diagnostic of every
fault if its own texts are clean and those of the cause right behind it. What is left is the plain
form, which is the one that is shown, and which has the lines of the diagnostic in their order. -/
theorem colours_come_off :
    (∀ diagnostic : Diagnostic, diagnostic.Clean → diagnostic.Agrees) ∧
    ∀ fault : Fault, (∀ text ∈ fault.texts, Clean text) →
      (∀ cause ∈ fault.cause?, ∀ text ∈ cause.texts, Clean text) → fault.diagnostic.Agrees := by
  refine ⟨fun diagnostic clean => clean.agrees, ?_⟩
  intro fault clean behind
  exact (Fault.clean_diagnostic clean behind).agrees

/-- Text that looks like a sequence without its escape character stays where it is. -/
theorem colours_come_off_of_lookalikes :
    let diagnostic : Diagnostic := {
      severity := .warning
      message := "[1;31mOrder"
      context := ["m"]
      suggestions := ["[0m", "help"]
      location := some "orders.toml" }
    let fault : Fault := .scriptEvaluators "[1;32m"
      (.componentLoad .scriptEvaluators "[1;32m" "no such factory")
    diagnostic.Clean ∧ (∀ text ∈ fault.texts, Clean text) ∧
      (∀ cause ∈ fault.cause?, ∀ text ∈ cause.texts, Clean text) ∧
      diagnostic.render true ≠ diagnostic.render false ∧
      uncoloured (diagnostic.render true) = "warning: [1;31mOrder\n  --> orders.toml\n  = m\n\n" ++
        "help: consider:\n  1. [0m\n  2. help\n" ∧
      fault.diagnostic.Agrees := by
  intro diagnostic fault
  have clean : diagnostic.Clean := by
    refine ⟨.word rfl, ?_, ?_, ?_⟩
    · rintro _ ⟨⟩
      exact .word rfl
    · exact List.forall_mem_singleton.mpr (.word rfl)
    · exact List.forall_mem_cons.mpr ⟨.word rfl, List.forall_mem_singleton.mpr (.word rfl)⟩
  have own : ∀ text ∈ fault.texts, Clean text := List.forall_mem_singleton.mpr (.word rfl)
  have behind : ∀ cause ∈ fault.cause?, ∀ text ∈ cause.texts, Clean text := by
    rintro _ ⟨⟩
    exact List.forall_mem_cons.mpr ⟨.word rfl, List.forall_mem_singleton.mpr (.word rfl)⟩
  obtain ⟨comesOff, ofFaults⟩ := colours_come_off
  refine ⟨clean, own, behind, by decide, ?_, ofFaults fault own behind⟩
  rw [(comesOff diagnostic clean).uncoloured]
  rfl

end BeanConstraints
