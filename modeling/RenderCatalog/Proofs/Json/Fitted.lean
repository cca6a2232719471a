import RenderCatalog.Json.Fit
import RenderCatalog.Proofs.Json.RoundTrip

/-!
# Values that fit as they are

A value that is canonical for a shape is fitted to it unchanged (`Canonical.fit_eq`): lists, tables and records item by item,
and by induction on how deep the value nests.
-/

namespace RenderCatalog.Json

variable {ρ : Type} [Records ρ] {item : Shape ρ} {l : Layout ρ} {items : List Value} {entries : List (String × Value)}

/-- No canonical value is null. -/
theorem Canonical.isNull_eq_false {shape : Shape ρ} {v : Value} (h : Canonical shape v) : v.isNull = false := by
  cases h <;> rfl

/-- Items that fit one by one fit as a list. -/
theorem fitItems_eq (h : ∀ v ∈ items, fit item v = .ok v) : fitItems item items = .ok items := by
  induction items with
  | nil => rw [fitItems]
  | cons v items ih =>
    obtain ⟨hv, hitems⟩ := List.forall_mem_cons.1 h
    rw [fitItems, hv, ih hitems]
    rfl

/-- Entries that fit one by one fit as a table. -/
theorem fitTable_eq (h : ∀ e ∈ entries, fit item e.2 = .ok e.2) : fitTable item entries = .ok entries := by
  induction entries with
  | nil => rw [fitTable]
  | cons e entries ih =>
    obtain ⟨he, hentries⟩ := List.forall_mem_cons.1 h
    rw [fitTable, he, ih hentries]
    rfl

/-- Entries of fields whose values fit as they are are found as they are. -/
theorem fitMembers_eq (hd : (l.fields.map (·.key)).Nodup)
    (h : ∀ e ∈ entries, ∃ f ∈ l.fields, f.key = e.1 ∧ fit f.shape e.2 = .ok e.2 ∧ e.2.isNull = false) :
    fitMembers l entries = .ok (foundIn entries) := by
  induction entries with
  | nil => rw [fitMembers]; rfl
  | cons e entries ih =>
    obtain ⟨⟨f, hf, hkey, hfit, hnull⟩, hentries⟩ := List.forall_mem_cons.1 h
    have hsettle : f.settle e.2 (.ok e.2) = .ok (some e.2) := by
      rw [RecordField.settle, hnull, Bool.and_false, if_neg Bool.false_ne_true]
      rfl
    rw [fitMembers, ← hkey, Layout.field?_eq_some hd hf]
    simp only [hfit, hsettle, ih hentries, hkey, bind, Except.bind]
    rfl

/-- A record that lists its fields, each with a value that fits as it is, fits as it is. -/
theorem fit_record_eq (hp : Records.Proper ρ) {r : ρ} (hlisted : Listed Canonical (Records.layout r).fields entries)
    (h : ∀ shape : Shape ρ, ∀ e ∈ entries, Canonical shape e.2 → fit shape e.2 = .ok e.2) :
    fit (.record r) (.object entries) = .ok (.object entries) := by
  have hmembers : fitMembers (Records.layout r) entries = .ok (foundIn entries) := by
    refine fitMembers_eq (hp.distinct r) fun e he => ?_
    obtain ⟨f, hf, hkey, hv⟩ := hlisted.exists_field e he
    exact ⟨f, hf, hkey, h f.shape e he hv, hv.isNull_eq_false⟩
  rw [fit, hmembers]
  simp only [bind, Except.bind, Layout.complete, hlisted.missing?_foundIn, hlisted.assemble_foundIn (hp.distinct r)]

/-- A canonical value fits as it is. -/
theorem Canonical.fit_eq (hp : Records.Proper ρ) {shape : Shape ρ} {v : Value} (h : Canonical shape v) : fit shape v = .ok v := by
  induction hdepth : v.depth using Nat.strongRecOn generalizing shape v with
  | ind depth ih =>
    cases h with
    | text s => rw [fit]
    | path s => rw [fit]
    | flag b => rw [fit]
    | integer fits =>
      rw [fit]
      exact if_pos fits
    | label known =>
      rw [fit]
      exact if_pos (List.contains_iff_mem.2 known)
    | @list item items each =>
      rw [Value.depth] at hdepth
      have hin : ∀ v ∈ items, v.depth < depth := fun v hv => by
        have := depthOfItems_le_iff.1 le_rfl v hv
        omega
      rw [fit, fitItems_eq fun v hv => ih _ (hin v hv) (each v hv) rfl]
      rfl
    | @table item entries _ each =>
      rw [Value.depth] at hdepth
      have hin : ∀ e ∈ entries, e.2.depth < depth := fun e he => by
        have := depthOfEntries_le_iff.1 le_rfl e he
        omega
      rw [fit, fitTable_eq fun e he => ih _ (hin e he) (each e he) rfl]
      rfl
    | record fields =>
      rw [Value.depth] at hdepth
      refine fit_record_eq hp fields fun shape e he hv => ih _ ?_ hv rfl
      have := depthOfEntries_le_iff.1 le_rfl e he
      omega

end RenderCatalog.Json
