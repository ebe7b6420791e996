import HubLink.Proofs.Credential.Hiding
import HubLink.Proofs.Text.Padding

namespace HubLink.Credential.Redaction

open Text

/-- The position of the first mark of a key in a segment. -/
def markAt? (s : List Char) : Option Nat :=
  (List.range s.length).find? fun n => StartsKey (s.drop n)

/-- The segment with everything after its first mark replaced. -/
def mask (s : List Char) : List Char :=
  match markAt? s with
  | some n => s.take (n + keyMark.length) ++ "[REDACTED]".toList
  | none => s

/-- The key `SharedAccessKeyName` with its letters case folded. -/
def keyNameField : List Char :=
  "sharedaccesskeyname".toList

variable {s : List Char}

/-- Without a mark, redaction keeps a segment. -/
theorem hideSegment_of_no_mark (h : ∀ n < s.length, ¬ StartsKey (s.drop n)) : hideSegment s = s := by
  induction s with
  | nil => rfl
  | cons c s ih =>
    have hhead : ¬ StartsKey (c :: s) := h 0 (by simp)
    have hrest : ∀ n < s.length, ¬ StartsKey (s.drop n) := fun n hn => h (n + 1) (by simpa using hn)
    rw [hideSegment_cons hhead, ih hrest]

/-- Redaction keeps a segment up to the end of its first mark and replaces the rest. -/
theorem hideSegment_of_first {n : Nat} (hmark : StartsKey (s.drop n))
    (hfirst : ∀ m < n, ¬ StartsKey (s.drop m)) :
    hideSegment s = s.take (n + keyMark.length) ++ "[REDACTED]".toList := by
  induction n generalizing s with
  | zero =>
    rw [Nat.zero_add]
    exact hideSegment_of_startsKey hmark
  | succ n ih =>
    cases s with
    | nil => exact absurd hmark not_startsKey_nil
    | cons c s =>
      have hhead : ¬ StartsKey (c :: s) := hfirst 0 (by omega)
      have hrest : ∀ m < n, ¬ StartsKey (s.drop m) := fun m hm => hfirst (m + 1) (by omega)
      rw [hideSegment_cons hhead, ih hmark hrest, Nat.add_right_comm, List.take_succ_cons,
        List.cons_append]

theorem hideSegment_eq_mask (s : List Char) : hideSegment s = mask s := by
  unfold mask
  cases hmark : markAt? s with
  | none =>
    refine hideSegment_of_no_mark fun n hn => ?_
    simpa using List.find?_eq_none.1 hmark n (List.mem_range.2 hn)
  | some n =>
    obtain ⟨hstarts, -, hfirst⟩ := List.find?_range_eq_some.1 hmark
    exact hideSegment_of_first (by simpa using hstarts) fun m hm => by simpa using hfirst m hm

/-- The field `SharedAccessKeyName` is not a mark; only its value is redacted. -/
theorem hideSegment_keyNameField {name : List Char} (h : name.map fold = keyNameField)
    (value : List Char) : hideSegment (name ++ '=' :: value) = name ++ '=' :: hideSegment value := by
  have hends : ∀ n < 20, keyNameField.drop n ≠ keyName := by decide
  have hlength : keyNameField.length = 19 := by decide
  refine hideSegment_of_name (fun hmem => ?_) (fun n => ?_) value
  · have hequals : fold '=' ∈ keyNameField := h ▸ List.mem_map_of_mem hmem
    revert hequals
    decide
  · rw [List.map_drop, h]
    by_cases hn : n < 20
    · exact hends n hn
    · rw [List.drop_of_length_le (by omega)]
      decide

/-- For every text: its redaction is that of each segment between semicolons, which keeps the segment
up to the end of its first mark and replaces the rest, or keeps all of it without a mark. The segments
keep their number and order, redaction is idempotent, and in a segment of `SharedAccessKeyName` only
marks in the value count. -/
theorem key_masked_by_segments (text : String) :
    let parts := segments ';' text.toList
    (join ';' parts = text.toList ∧ ∀ part ∈ parts, ';' ∉ part) ∧
      redactKey text = String.ofList (join ';' (parts.map mask)) ∧
      segments ';' (redactKey text).toList = parts.map mask ∧
      redactKey (redactKey text) = redactKey text ∧
      ∀ name value, name ++ '=' :: value ∈ parts → name.map fold = keyNameField →
        mask (name ++ '=' :: value) = name ++ '=' :: mask value := by
  intro parts
  have hmask : parts.map hideSegment = parts.map mask := List.map_congr_left fun s _ => hideSegment_eq_mask s
  have hshown : redactKey text = String.ofList (join ';' (parts.map mask)) := by
    rw [← hmask]
    exact redactKey_eq_join text
  refine ⟨⟨join_segments ';' text.toList, fun part => not_mem_segment⟩, hshown, ?_,
    redactKey_redactKey text, fun name value _ hname => ?_⟩
  · have hne : parts.map mask ≠ [] := by simpa using segments_ne_nil ';' text.toList
    rw [hshown, String.toList_ofList]
    refine segments_join hne fun masked hmasked => ?_
    obtain ⟨part, hpart, rfl⟩ := List.mem_map.1 hmasked
    rw [← hideSegment_eq_mask]
    exact semicolon_not_mem_hideSegment (not_mem_segment hpart)
  · rw [← hideSegment_eq_mask, ← hideSegment_eq_mask]
    exact hideSegment_keyNameField hname value

/-- A field that is not a mark, a mark in another letter case, and a second mark behind it. -/
theorem key_masked_by_segments_marks :
    let text := "SharedAccessKeyName=n;x ſharedaccesskey=a=SharedAccessKey=b;HostName=h"
    let name := "SharedAccessKeyName".toList
    name ++ '=' :: ['n'] ∈ segments ';' text.toList ∧ name.map fold = keyNameField ∧
      mask (name ++ '=' :: ['n']) = name ++ '=' :: ['n'] ∧
      redactKey text = "SharedAccessKeyName=n;x ſharedaccesskey=[REDACTED];HostName=h" ∧
      redactKey (redactKey text) = redactKey text := by
  intro text name
  have hpart : name ++ '=' :: ['n'] ∈ segments ';' text.toList := by decide
  have hfolds : name.map fold = keyNameField := by decide
  obtain ⟨-, -, -, htwice, hname⟩ := key_masked_by_segments text
  have hvalue : mask ['n'] = ['n'] := by decide
  refine ⟨hpart, hfolds, ?_, by decide, htwice⟩
  rw [hname name ['n'] hpart hfolds, hvalue]

end HubLink.Credential.Redaction
