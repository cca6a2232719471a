import RenderCatalog.Machine
import RenderCatalog.Program.Run
import RenderCatalog.Proofs.Artifact.ReadBack
import RenderCatalog.Proofs.Payload.Callable

/-!
# How checking a payload ends

The command that checks a payload ends with an outcome on every machine, also on one that is struck. Its code tells the cases apart
exactly: 0 for a payload that is rendered, 2 for a component that the index does not know and for a text that is refused, 1 for an
index that cannot be read (`validate_answers`). What is printed is the rendering, or a report with everything that is wrong.

Loading an index, finding a schema in it and passing a verdict are taken one after the other, each with all that can come of it.
-/

namespace RenderCatalog

open Json (Value)
open Machine (bind_eq_iff readText_eq_bytesAt note_eq noteAll_eq)

/-! ## The index of a command -/

namespace Machine

variable {m : Machine} {path key : String} {i j : Index} {s t : Schema}

/-- The file that an index is read from: the path itself, or the index file of the directory that it leads to. -/
def indexFile (m : Machine) (path : String) : String :=
  if (m.disk.look? m.workDir path).map Node.kind == some .directory then Artifact.indexPath path else path

/-- The index at a path can be read and decoded, and is this one. -/
structure HoldsIndex (m : Machine) (path : String) (i : Index) : Prop where
  untroubled : m.trouble? m.steps = none
  written : ∃ bytes text, m.disk.read m.workDir (m.indexFile path) = .ok bytes ∧ String.fromUTF8? bytes = some text ∧
    Index.ofText text = .ok i

/-- A machine holds an index when its file decodes to one. -/
theorem holdsIndex_iff :
    m.HoldsIndex path i ↔ ∃ text, (m.bytesAt (m.indexFile path)).bind Host.decode = .ok text ∧ Index.ofText text = .ok i := by
  constructor
  · rintro ⟨htrouble, bytes, text, hbytes, htext, hi⟩
    refine ⟨text, ?_, hi⟩
    rw [bytesAt, htrouble, hbytes]
    exact Host.decode_eq_ok_iff.2 htext
  · rintro ⟨text, htext, hi⟩
    obtain ⟨bytes, hbytes, htext⟩ := bind_eq_ok.1 htext
    rw [bytesAt] at hbytes
    cases htrouble : m.trouble? m.steps with
    | some t =>
      rw [htrouble] at hbytes
      cases hbytes
    | none =>
      rw [htrouble] at hbytes
      exact ⟨htrouble, bytes, text, hbytes, Host.decode_eq_ok_iff.1 htext, hi⟩

/-- No machine holds two indexes at one path. -/
theorem HoldsIndex.unique (h : m.HoldsIndex path i) (h' : m.HoldsIndex path j) : i = j := by
  obtain ⟨text, htext, hi⟩ := holdsIndex_iff.1 h
  obtain ⟨text', htext', hj⟩ := holdsIndex_iff.1 h'
  obtain rfl := Except.ok.inj (htext.symm.trans htext')
  exact Except.ok.inj (hi.symm.trans hj)

/-- The schema is the one that answers to a key in the index at a path. -/
def FindsSchema (m : Machine) (path key : String) (s : Schema) : Prop := ∃ i, m.HoldsIndex path i ∧ i.find? key = some s

/-- No key is answered by two schemas. -/
theorem FindsSchema.unique (h : m.FindsSchema path key s) (h' : m.FindsSchema path key t) : s = t := by
  obtain ⟨i, hi, hs⟩ := h
  obtain ⟨j, hj, ht⟩ := h'
  obtain rfl := hi.unique hj
  exact Option.some.inj (hs.symm.trans ht)

/-- Nothing is found by a key that the index does not know. -/
theorem not_findsSchema (hi : m.HoldsIndex path i) (hnone : i.find? key = none) : ¬m.FindsSchema path key s := by
  rintro ⟨j, hj, hs⟩
  obtain rfl := hi.unique hj
  cases hnone.symm.trans hs

/-- An index that is not decoded is refused for its text, not for lacking a schema. -/
theorem isNotFound_of_ofText {text : String} {e : Error} (h : Index.ofText text = .error e) : e.isNotFound = false := by
  rw [Index.ofText] at h
  cases hread : Stored.read (α := Index) text with
  | ok i =>
    rw [hread] at h
    cases h
  | error flaw =>
    rw [hread] at h
    cases h
    rfl

/-- Loading an index gives the one that the machine holds at the path. Where it holds none, the error is not about a schema. -/
theorem exists_loadIndex (m : Machine) (path : String) :
    ∃ result m', (Artifact.loadIndex path : Session (Except Error Index)) m = (result, m') ∧
      ((∃ i, result = .ok i ∧ m.HoldsIndex path i) ∨
        ∃ e, result = .error e ∧ e.isNotFound = false ∧ ∀ i, ¬m.HoldsIndex path i) := by
  have hfile : (do return if ← Host.isDir path then Artifact.indexPath path else path : Session String) m =
      (m.indexFile path, m) := rfl
  have hread := readText_eq_bytesAt m (m.indexFile path)
  rw [Artifact.loadIndex]
  cases htext : (m.bytesAt (m.indexFile path)).bind Host.decode with
  | error cause =>
    rw [htext] at hread
    refine ⟨.error (.io (m.indexFile path) cause), m.next, bind_eq_iff.2 ⟨_, _, hfile, bind_eq_iff.2 ⟨_, _, hread, rfl⟩⟩, ?_⟩
    refine Or.inr ⟨_, rfl, rfl, fun i hi => ?_⟩
    obtain ⟨text, htext', -⟩ := holdsIndex_iff.1 hi
    cases htext.symm.trans htext'
  | ok text =>
    rw [htext] at hread
    cases hi : Index.ofText text with
    | error e =>
      refine ⟨.error e, m.next, bind_eq_iff.2 ⟨_, _, hfile, bind_eq_iff.2 ⟨_, _, hread, ?_⟩⟩, ?_⟩
      · simp only [hi]
        rfl
      · refine Or.inr ⟨e, rfl, isNotFound_of_ofText hi, fun i hi' => ?_⟩
        obtain ⟨text', htext', hi'⟩ := holdsIndex_iff.1 hi'
        obtain rfl := Except.ok.inj (htext.symm.trans htext')
        cases hi.symm.trans hi'
    | ok i =>
      obtain ⟨events, hnote⟩ := note_eq (.loadedIndex i.schemas.length (m.indexFile path)) m.next
      refine ⟨.ok i, { m.next with events := events }, bind_eq_iff.2 ⟨_, _, hfile, bind_eq_iff.2 ⟨_, _, hread, ?_⟩⟩, ?_⟩
      · simp only [hi]
        exact bind_eq_iff.2 ⟨_, _, hnote, rfl⟩
      · exact Or.inl ⟨i, rfl, holdsIndex_iff.2 ⟨text, htext, hi⟩⟩

end Machine

/-! ## Verdicts -/

namespace Payload

variable {s : Schema} {text : String} {r : Rendering}

/-- The text is JSON and the payload it writes is rendered. -/
def Accepts (s : Schema) (text : String) (r : Rendering) : Prop := ∃ v, Value.read text.toList = .ok v ∧ render s v = .ok r

/-- The text is not JSON, or the payload it writes is not rendered. -/
def Refuses (s : Schema) (text : String) : Prop :=
  (∃ flaw, Value.read text.toList = .error flaw) ∨ ∃ v issue, Value.read text.toList = .ok v ∧ render s v = .error issue

/-- What is listed is something, and it is everything that is wrong with the payload when anything is. -/
structure Lists (s : Schema) (text : String) (listed : List Issue) : Prop where
  nonempty : listed ≠ []
  complete : ∀ v, Value.read text.toList = .ok v → issues s v ≠ [] → listed = issues s v

/-- A text is refused exactly when it is not accepted. -/
theorem refuses_iff : Refuses s text ↔ ¬∃ r, Accepts s text r := by
  simp only [Refuses, Accepts]
  cases Value.read text.toList with
  | error flaw => simp
  | ok v => cases hrender : render s v <;> simp [hrender]

/-- No text is both refused and accepted. -/
theorem Refuses.not_accepts (h : Refuses s text) : ¬Accepts s text r := fun haccepts => refuses_iff.1 h ⟨r, haccepts⟩

/-- The verdict on an accepted text is its rendering: the second look at the payload finds no issue that the first one missed. -/
theorem ofText_of_accepts (h : Accepts s text r) : Verdict.ofText s text = .accepted r := by
  obtain ⟨v, hread, hrender⟩ := h
  have hissues : issues s v = [] := ((exists_render_eq_ok_iff s v).1 ⟨r, hrender⟩).1
  simp only [Verdict.ofText, hread, Verdict.ofValue, hissues, hrender]

/-- The verdict on a refused text lists all that is wrong with it. -/
theorem ofText_of_refuses (h : Refuses s text) :
    ∃ listed, Lists s text listed ∧ Verdict.ofText s text = .rejected s.component listed := by
  rcases h with ⟨flaw, hread⟩ | ⟨v, issue, hread, hrender⟩
  · refine ⟨_, ⟨List.cons_ne_nil _ [], fun v hv => ?_⟩, by simp only [Verdict.ofText, hread]; rfl⟩
    cases hread.symm.trans hv
  · cases hissues : issues s v with
    | cons first rest =>
      refine ⟨first :: rest, ⟨List.cons_ne_nil _ _, fun w hw _ => ?_⟩, ?_⟩
      · obtain rfl := Except.ok.inj (hread.symm.trans hw)
        exact hissues.symm
      · simp only [Verdict.ofText, hread, Verdict.ofValue, hissues]
    | nil =>
      -- only the key of the render type refuses a payload without issues, and then that is all there is to list
      refine ⟨[issue], ⟨List.cons_ne_nil _ _, fun w hw hne => ?_⟩, ?_⟩
      · obtain rfl := Except.ok.inj (hread.symm.trans hw)
        exact absurd hissues hne
      · simp only [Verdict.ofText, hread, Verdict.ofValue, hissues, hrender]

end Payload

/-! ## Outcomes -/

namespace Program

open Payload (Accepts Refuses Lists Verdict)

variable {m : Machine} {view : View} {index key text payload : String} {s : Schema} {o : Outcome}

/-- The report on a refused payload. -/
def refusal (component : String) (listed : List Payload.Issue) : Value :=
  .object [("component", .string component), ("valid", .bool false), ("issues", .array (listed.map (·.toValue)))]

/-- The outcome of checking a text says exactly what came of it. What is printed is the value in the format of the view, and a line
end after it. Nothing is ever said about the command line. -/
structure Answers (m : Machine) (view : View) (index key text : String) (o : Outcome) : Prop where
  success_iff : o.code.code = 0 ↔ ∃ s r, m.FindsSchema index key s ∧ Accepts s text r
  invalidInput_iff : o.code.code = 2 ↔
    ∃ i, m.HoldsIndex index i ∧ (i.find? key = none ∨ ∃ s, i.find? key = some s ∧ Refuses s text)
  failure_iff : o.code.code = 1 ↔ ∀ i, ¬m.HoldsIndex index i
  codes : o.code ∈ [.success, .invalidInput, .failure]
  rendered : ∀ s r, m.FindsSchema index key s → Accepts s text r →
    o.output = Report.render view.format view.coloured r.toValue ++ "\n"
  reported : ∀ s, m.FindsSchema index key s → Refuses s text →
    ∃ listed, Lists s text listed ∧ o.output = Report.render view.format view.coloured (refusal s.component listed) ++ "\n"
  silent : (∀ s, ¬m.FindsSchema index key s) → o.output = ""
  uncomplaining : o.complaint = ""

/-- The outcome of what checking came to. -/
def ofResult (view : View) : Except Failure Verdict → Outcome
  | .error f => { code := codeWithoutVerdict f }
  | .ok (.accepted r) => report view .success (Verdict.accepted r).toValue
  | .ok (.rejected component listed) => report view .invalidInput (Verdict.rejected component listed).toValue

/-- Where no index is held, nothing is found and nothing printed. -/
theorem answers_of_not_holdsIndex (h : ∀ i, ¬m.HoldsIndex index i) : Answers m view index key text { code := .failure } where
  success_iff := ⟨nofun, fun ⟨_, _, ⟨i, hi, _⟩, _⟩ => absurd hi (h i)⟩
  invalidInput_iff := ⟨nofun, fun ⟨i, hi, _⟩ => absurd hi (h i)⟩
  failure_iff := ⟨fun _ => h, fun _ => rfl⟩
  codes := by simp
  rendered := fun _ _ ⟨i, hi, _⟩ => absurd hi (h i)
  reported := fun _ ⟨i, hi, _⟩ => absurd hi (h i)
  silent := fun _ => rfl
  uncomplaining := rfl

/-- Where the index does not know the key, nothing is found and nothing printed. -/
theorem answers_of_find?_eq_none {i : Index} (hi : m.HoldsIndex index i) (hnone : i.find? key = none) :
    Answers m view index key text { code := .invalidInput } where
  success_iff := ⟨nofun, fun ⟨_, _, hs, _⟩ => absurd hs (Machine.not_findsSchema hi hnone)⟩
  invalidInput_iff := ⟨fun _ => ⟨i, hi, Or.inl hnone⟩, fun _ => rfl⟩
  failure_iff := ⟨nofun, fun h => absurd hi (h i)⟩
  codes := by simp
  rendered := fun _ _ hs => absurd hs (Machine.not_findsSchema hi hnone)
  reported := fun _ hs => absurd hs (Machine.not_findsSchema hi hnone)
  silent := fun _ => rfl
  uncomplaining := rfl

/-- The outcome of the verdict on an accepted text. -/
theorem answers_of_accepts {r : Payload.Rendering} (hs : m.FindsSchema index key s) (h : Accepts s text r) :
    Answers m view index key text (ofResult view (.ok (.ofText s text))) := by
  have ⟨i, hi, hfind⟩ := hs
  rw [Payload.ofText_of_accepts h]
  exact {
    success_iff := ⟨fun _ => ⟨s, r, hs, h⟩, fun _ => rfl⟩
    invalidInput_iff := by
      refine ⟨nofun, ?_⟩
      rintro ⟨j, hj, hnone | ⟨t, ht, hrefuses⟩⟩
      · obtain rfl := hi.unique hj
        cases hfind.symm.trans hnone
      · obtain rfl := hs.unique ⟨j, hj, ht⟩
        exact absurd h hrefuses.not_accepts
    failure_iff := ⟨nofun, fun hnone => absurd hi (hnone i)⟩
    codes := by simp [ofResult, report, Outcome.printing]
    rendered := by
      intro t r' ht h'
      obtain rfl := hs.unique ht
      obtain rfl := Verdict.accepted.inj ((Payload.ofText_of_accepts h).symm.trans (Payload.ofText_of_accepts h'))
      rfl
    reported := by
      intro t ht hrefuses
      obtain rfl := hs.unique ht
      exact absurd h hrefuses.not_accepts
    silent := fun hnone => absurd hs (hnone s)
    uncomplaining := rfl }

/-- The outcome of the verdict on a refused text. -/
theorem answers_of_refuses (hs : m.FindsSchema index key s) (h : Refuses s text) :
    Answers m view index key text (ofResult view (.ok (.ofText s text))) := by
  have ⟨i, hi, hfind⟩ := hs
  obtain ⟨listed, hlists, hverdict⟩ := Payload.ofText_of_refuses h
  rw [hverdict]
  exact {
    success_iff := by
      refine ⟨nofun, ?_⟩
      rintro ⟨t, r, ht, haccepts⟩
      obtain rfl := hs.unique ht
      exact absurd haccepts h.not_accepts
    invalidInput_iff := ⟨fun _ => ⟨i, hi, Or.inr ⟨s, hfind, h⟩⟩, fun _ => rfl⟩
    failure_iff := ⟨nofun, fun hnone => absurd hi (hnone i)⟩
    codes := by simp [ofResult, report, Outcome.printing]
    rendered := by
      intro t r ht haccepts
      obtain rfl := hs.unique ht
      exact absurd haccepts h.not_accepts
    reported := by
      intro t ht _
      obtain rfl := hs.unique ht
      exact ⟨listed, hlists, rfl⟩
    silent := fun hnone => absurd hs (hnone s)
    uncomplaining := rfl }

/-- Checking a text passes the verdict of the schema that is found, and else says what is missing. -/
theorem exists_check (m : Machine) (index key text : String) :
    ∃ result m', (Payload.check index key text : Session (Except Failure Verdict)) m = (result, m') ∧
      ((∃ s, m.FindsSchema index key s ∧ result = .ok (.ofText s text)) ∨
        ∃ f, result = .error f ∧
          ((∃ i, m.HoldsIndex index i ∧ i.find? key = none ∧ codeWithoutVerdict f = .invalidInput) ∨
            (∀ i, ¬m.HoldsIndex index i) ∧ codeWithoutVerdict f = .failure)) := by
  obtain ⟨loaded, m', hload, hloaded⟩ := Machine.exists_loadIndex m index
  have hstep : (Index.load index : Session (Except Failure Index)) m =
      (during s!"failed to load schema index from {index}" loaded, m') :=
    bind_eq_iff.2 ⟨_, _, hload, rfl⟩
  rw [Payload.check]
  rcases hloaded with ⟨i, rfl, hi⟩ | ⟨e, rfl, he, hnone⟩
  · cases hfind : i.find? key with
    | some s =>
      refine ⟨.ok (.ofText s text), m', bind_eq_iff.2 ⟨_, _, hstep, ?_⟩, Or.inl ⟨s, ⟨i, hi, hfind⟩, rfl⟩⟩
      simp only [during, Except.mapError, Index.get, hfind]
      rfl
    | none =>
      refine ⟨.error (.ofError (.schemaNotFound key)), m', bind_eq_iff.2 ⟨_, _, hstep, ?_⟩, ?_⟩
      · simp only [during, Except.mapError, Index.get, hfind]
        rfl
      · exact Or.inr ⟨_, rfl, Or.inl ⟨i, hi, hfind, rfl⟩⟩
  · refine ⟨_, m', bind_eq_iff.2 ⟨_, _, hstep, rfl⟩, Or.inr ⟨_, rfl, Or.inr ⟨hnone, ?_⟩⟩⟩
    cases e with
    | schemaNotFound key => cases he
    | _ => rfl

/-- Validating ends with the outcome of what checking came to. -/
theorem exists_validate (view : View) {result : Except Failure Verdict} {m₁ : Machine} (h : payload ≠ "-")
    (hcheck : (Payload.check index key payload : Session (Except Failure Verdict)) m = (result, m₁)) :
    ∃ m', (validate view index key payload : Session (Except Failure Outcome)) m = (.ok (ofResult view result), m') := by
  have htext : (payloadText payload : Session (Except Failure String)) m = (.ok payload, m) := by
    rw [payloadText, if_neg h]
    rfl
  rw [validate]
  cases result with
  | error f =>
    obtain ⟨events, hnote⟩ := note_eq (.refused .validateCommand f.line) m₁
    have hrefuse : (refuse .validateCommand (codeWithoutVerdict f) f.line : Session Outcome) m₁ =
        ({ code := codeWithoutVerdict f }, { m₁ with events := events }) :=
      bind_eq_iff.2 ⟨_, _, hnote, rfl⟩
    exact ⟨_, bind_eq_iff.2 ⟨_, _, htext, bind_eq_iff.2 ⟨_, _, hcheck, bind_eq_iff.2 ⟨_, _, hrefuse, rfl⟩⟩⟩⟩
  | ok verdict =>
    cases verdict with
    | accepted r =>
      obtain ⟨events, hnote⟩ := note_eq (.validPayload r.renderType) m₁
      exact ⟨_, bind_eq_iff.2 ⟨_, _, htext, bind_eq_iff.2 ⟨_, _, hcheck, bind_eq_iff.2 ⟨_, _, hnote, rfl⟩⟩⟩⟩
    | rejected component listed =>
      obtain ⟨events, hnote⟩ := noteAll_eq (listed.map fun i => .refused .validateCommand i.text) m₁
      exact ⟨_, bind_eq_iff.2 ⟨_, _, htext, bind_eq_iff.2 ⟨_, _, hcheck, bind_eq_iff.2 ⟨_, _, hnote, rfl⟩⟩⟩⟩

/-- Validating a text always ends with an outcome, and the outcome answers the text: 0 for one that is rendered, 2 for one that is
refused and for an unknown component, 1 where there is no index to be read. The text is the payload itself, not what was typed in.
Rendering a payload gives no error but that the payload is refused. -/
theorem validate_answers (m : Machine) (view : View) (index key payload : String) (h : payload ≠ "-") :
    (∃ o m', (validate view index key payload : Session (Except Failure Outcome)) m = (.ok o, m') ∧
      Answers m view index key payload o) ∧
    ∀ s v e, (Payload.render s v).mapError Payload.Issue.toError = .error e → e.isValidation = true := by
  refine ⟨?_, fun s v e he => ?_⟩
  · obtain ⟨result, m₁, hcheck, hresult⟩ := exists_check m index key payload
    obtain ⟨m', hrun⟩ := exists_validate view h hcheck
    refine ⟨ofResult view result, m', hrun, ?_⟩
    rcases hresult with ⟨s, hs, rfl⟩ | ⟨f, rfl, ⟨i, hi, hnone, hcode⟩ | ⟨hnone, hcode⟩⟩
    · by_cases haccepts : ∃ r, Accepts s payload r
      · exact answers_of_accepts hs haccepts.choose_spec
      · exact answers_of_refuses hs (Payload.refuses_iff.2 haccepts)
    · rw [ofResult, hcode]
      exact answers_of_find?_eq_none hi hnone
    · rw [ofResult, hcode]
      exact answers_of_not_holdsIndex hnone
  · cases hrender : Payload.render s v with
    | ok r =>
      rw [hrender] at he
      cases he
    | error issue =>
      rw [hrender] at he
      cases he
      rfl

/-- A machine with an index of one schema in its output directory. -/
def cardMachine : Machine :=
  { disk := ⟨[(["out"], .directory),
      (["out", "index.json"], .file (Artifact.text (Index.toValue ⟨[Artifact.bareSchema "Card"]⟩)).toUTF8)]⟩ }

/-- The index is held, and is of one schema. -/
theorem holdsIndex_cardMachine : cardMachine.HoldsIndex "out" ⟨[Artifact.bareSchema "Card"]⟩ where
  untroubled := rfl
  written := by
    have hfile : cardMachine.indexFile "out" = "out/index.json" := by decide +kernel
    have hordered : ∀ s ∈ [Artifact.bareSchema "Card"], s.Ordered :=
      List.forall_mem_singleton.2 (Schema.compile_ordered _)
    have hread := Artifact.read_text Index.faithful hordered (by decide)
    rw [hfile]
    exact ⟨_, _, rfl, dif_pos (String.isValidUTF8 _), Index.ofText_eq_ok_iff.2 hread⟩

/-- A card without props is rendered, a payload that is no object and a text that breaks off are reported, an unknown component is
refused, and a machine without files has no index. -/
theorem validate_answers_cardMachine :
    ("\x7b\x7d" ≠ "-" ∧ ∃ o m', (validate ⟨.json, false⟩ "out" "card" "\x7b\x7d" : Session (Except Failure Outcome)) cardMachine =
      (.ok o, m') ∧ o.code.code = 0 ∧ o.output = "\x7b\n  \"type\": \"card\"\n\x7d\n") ∧
    ("[]" ≠ "-" ∧ ∃ o m', (validate ⟨.text, false⟩ "out" "card" "[]" : Session (Except Failure Outcome)) cardMachine = (.ok o, m') ∧
      o.code.code = 2 ∧
      o.output = "component=Card\nissues[0].field=$\nissues[0].reason=payload must be a JSON object\nvalid=false\n") ∧
    ("[" ≠ "-" ∧ ∃ o m', (validate ⟨.text, false⟩ "out" "card" "[" : Session (Except Failure Outcome)) cardMachine = (.ok o, m') ∧
      o.code.code = 2 ∧ ∃ listed ≠ [], o.output = Report.render .text false (refusal "Card" listed) ++ "\n") ∧
    (∃ o m', (validate ⟨.json, false⟩ "out" "Chart" "[" : Session (Except Failure Outcome)) cardMachine = (.ok o, m') ∧
      o.code.code = 2 ∧ o.output = "") ∧
    ∃ o m', (validate ⟨.json, false⟩ "out" "card" "[" : Session (Except Failure Outcome)) {} = (.ok o, m') ∧ o.code.code = 1 := by
  have hfind : Index.find? ⟨[Artifact.bareSchema "Card"]⟩ "card" = some (Artifact.bareSchema "Card") := rfl
  have hnone : Index.find? ⟨[Artifact.bareSchema "Card"]⟩ "Chart" = none := rfl
  have hcard : cardMachine.FindsSchema "out" "card" (Artifact.bareSchema "Card") := ⟨_, holdsIndex_cardMachine, hfind⟩
  have hrender : Payload.render (Artifact.bareSchema "Card") (.object []) = .ok ⟨"card", []⟩ := rfl
  have hissues : Payload.issues (Artifact.bareSchema "Card") (.array []) = [⟨"$", .notObject⟩] := rfl
  have hbraces : "\x7b\x7d" ≠ "-" := by decide
  have hlist : "[]" ≠ "-" := by decide
  have hbracket : "[" ≠ "-" := by decide
  have hread : Value.read "\x7b\x7d".toList = .ok (.object []) := by cbv
  have hreadList : Value.read "[]".toList = .ok (.array []) := by cbv
  have hbroken : ∃ flaw, Value.read "[".toList = .error flaw := ⟨_, by cbv⟩
  refine ⟨⟨hbraces, ?_⟩, ⟨hlist, ?_⟩, ⟨hbracket, ?_⟩, ?_, ?_⟩
  · obtain ⟨o, m', hrun, ho⟩ := (validate_answers cardMachine ⟨.json, false⟩ "out" "card" _ hbraces).1
    have haccepts : Accepts (Artifact.bareSchema "Card") "\x7b\x7d" ⟨"card", []⟩ := ⟨_, hread, hrender⟩
    exact ⟨o, m', hrun, ho.success_iff.2 ⟨_, _, hcard, haccepts⟩, (ho.rendered _ _ hcard haccepts).trans (by decide +kernel)⟩
  · obtain ⟨o, m', hrun, ho⟩ := (validate_answers cardMachine ⟨.text, false⟩ "out" "card" _ hlist).1
    have hrefuses : Refuses (Artifact.bareSchema "Card") "[]" := Or.inr ⟨_, _, hreadList, rfl⟩
    obtain ⟨listed, hlisted, hreport⟩ := ho.reported _ hcard hrefuses
    obtain rfl := hlisted.complete _ hreadList (by simp [hissues])
    exact ⟨o, m', hrun, ho.invalidInput_iff.2 ⟨_, holdsIndex_cardMachine, Or.inr ⟨_, hfind, hrefuses⟩⟩,
      hreport.trans (by decide +kernel)⟩
  · obtain ⟨o, m', hrun, ho⟩ := (validate_answers cardMachine ⟨.text, false⟩ "out" "card" _ hbracket).1
    obtain ⟨listed, hlisted, hreport⟩ := ho.reported _ hcard (Or.inl hbroken)
    have hcode : o.code.code = 2 := ho.invalidInput_iff.2 ⟨_, holdsIndex_cardMachine, Or.inr ⟨_, hfind, Or.inl hbroken⟩⟩
    exact ⟨o, m', hrun, hcode, listed, hlisted.nonempty, hreport⟩
  · obtain ⟨o, m', hrun, ho⟩ := (validate_answers cardMachine ⟨.json, false⟩ "out" "Chart" _ hbracket).1
    have hcode : o.code.code = 2 := ho.invalidInput_iff.2 ⟨_, holdsIndex_cardMachine, Or.inl hnone⟩
    exact ⟨o, m', hrun, hcode, ho.silent fun _ => Machine.not_findsSchema holdsIndex_cardMachine hnone⟩
  · obtain ⟨o, m', hrun, ho⟩ := (validate_answers {} ⟨.json, false⟩ "out" "card" _ hbracket).1
    refine ⟨o, m', hrun, ho.failure_iff.2 ?_⟩
    rintro i ⟨-, bytes, text, hbytes, -⟩
    have hmissing : (Disk.read {} [] (Machine.indexFile {} "out")).toOption.isNone := by decide +kernel
    rw [hbytes] at hmissing
    cases hmissing

end Program

end RenderCatalog
