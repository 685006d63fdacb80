import Mathlib.Data.List.Basic

/-! Prefix codes, and decoders that read several bits at a time. A decoder is described by the
bits that it has read since the last symbol; one whose every step fits the description decodes
every word. -/

set_option autoImplicit false

namespace Tquic.Lib.PrefixCode

variable {α β σ κ : Type}

/-- No codeword begins another. -/
def PrefixFree (code : α → List β) : Prop := ∀ left right, code left <+: code right → left = right

/-- A step on a chunk of bits: the next state with the symbol that was completed, if any, or
nothing when the bits are refused. -/
abbrev Step (σ κ α : Type) := σ → κ → Option (σ × Option α)

def run (step : Step σ κ α) : σ → List κ → Option (σ × List α)
  | state, [] => some (state, [])
  | state, chunk :: chunks =>
      match step state chunk with
      | none => none
      | some (next, symbol) =>
          (run step next chunks).map fun result => (result.1, symbol.toList ++ result.2)

variable {text : List α} {chunks : List κ}

theorem run_cons {step : Step σ κ α} {state final : σ} {chunk : κ}
    (ran : run step state (chunk :: chunks) = some (final, text)) :
    ∃ next symbol, step state chunk = some (next, symbol) ∧
      ∃ rest, text = symbol.toList ++ rest ∧ run step next chunks = some (final, rest) := by
  unfold run at ran
  cases taken : step state chunk with
  | none =>
      rw [taken] at ran
      cases ran
  | some result =>
      rw [taken] at ran
      obtain ⟨⟨last, rest⟩, finished, same⟩ := Option.map_eq_some_iff.mp ran
      cases same
      exact ⟨result.1, result.2, rfl, rest, rfl, finished⟩

theorem run_step {step : Step σ κ α} {state next final : σ} {chunk : κ}
    {symbol : Option α} (taken : step state chunk = some (next, symbol))
    (ran : run step next chunks = some (final, text)) :
    run step state (chunk :: chunks) = some (final, symbol.toList ++ text) := by
  unfold run
  rw [taken]
  dsimp only
  rw [ran]
  rfl

/-- `Holds state word` describes a state by the bits since the last symbol, `stop` ends a
text and is never completed. -/
structure Describes (code : α → List β) (stop : α) (step : Step σ κ α) (bits : κ → List β)
    (Holds : σ → List β → Prop) : Prop where
  moves : ∀ {state next chunk word symbol}, Holds state word →
    step state chunk = some (next, symbol) →
      ∃ rest, Holds next rest ∧ word ++ bits chunk = symbol.toList.flatMap code ++ rest
  completes : ∀ {state next chunk symbol}, step state chunk = some (next, some symbol) →
    symbol ≠ stop
  refuses : ∀ {state chunk word}, Holds state word → step state chunk = none →
    code stop <+: word ++ bits chunk
  partly : ∀ {state word}, Holds state word → ∃ symbol, word <+: code symbol ∧ word ≠ code symbol

variable {code : α → List β} {stop : α} {step : Step σ κ α} {bits : κ → List β}
  {Holds : σ → List β → Prop}

theorem PrefixFree.eq_of_prefix (free : PrefixFree code) {left right : α} {word : List β}
    (first : code left <+: word) (second : code right <+: word) : left = right := by
  rcases List.prefix_or_prefix_of_prefix first second with shorter | shorter
  · exact free left right shorter
  · exact (free right left shorter).symm

theorem PrefixFree.front (free : PrefixFree code) {symbol : α}
    {padding tail : List β} (begins : padding <+: code stop) (other : symbol ≠ stop)
    (front : code symbol <+: text.flatMap code ++ padding)
    (same : code symbol ++ tail = text.flatMap code ++ padding) :
    ∃ rest, text = symbol :: rest ∧ tail = rest.flatMap code ++ padding := by
  cases text with
  | nil => exact absurd (free symbol stop (front.trans begins)) other
  | cons first rest =>
      rw [List.flatMap_cons, List.append_assoc] at front same
      obtain rfl : symbol = first := free.eq_of_prefix front (List.prefix_append _ _)
      exact ⟨rest, rfl, List.append_cancel_left same⟩

/-- A machine that describes a code decodes every text, with proper padding behind it. -/
theorem Describes.run_text (fits : Describes code stop step bits Holds) (free : PrefixFree code)
    {state : σ} {chunks : List κ} {word padding : List β} {text : List α}
    (holds : Holds state word) (begins : padding <+: code stop) (proper : padding ≠ code stop)
    (plain : stop ∉ text) (same : word ++ chunks.flatMap bits = text.flatMap code ++ padding) :
    ∃ final, run step state chunks = some (final, text) ∧ Holds final padding := by
  induction chunks generalizing state word text with
  | nil =>
      rw [List.flatMap_nil, List.append_nil] at same
      cases text with
      | nil =>
          rw [List.flatMap_nil, List.nil_append] at same
          exact ⟨state, rfl, same ▸ holds⟩
      | cons first rest =>
          -- a whole codeword cannot have been read since the last one
          obtain ⟨symbol, shorter, unfinished⟩ := fits.partly holds
          have whole : code first <+: word := by
            rw [same, List.flatMap_cons, List.append_assoc]
            exact List.prefix_append _ _
          obtain rfl := free first symbol (whole.trans shorter)
          exact absurd (shorter.eq_of_length_le whole.length_le) unfinished
  | cons chunk chunks ih =>
      rw [List.flatMap_cons, ← List.append_assoc] at same
      have ahead : word ++ bits chunk <+: text.flatMap code ++ padding :=
        same ▸ List.prefix_append _ _
      cases taken : step state chunk with
      | none =>
          have refused := (fits.refuses holds taken).trans ahead
          cases text with
          | nil => exact absurd (begins.eq_of_length_le refused.length_le) proper
          | cons first rest =>
              rw [List.flatMap_cons, List.append_assoc] at refused
              have ended := free.eq_of_prefix refused (List.prefix_append _ _)
              exact absurd (ended ▸ List.mem_cons_self) plain
      | some result =>
          obtain ⟨next, symbol⟩ := result
          obtain ⟨rest, after, read⟩ := fits.moves holds taken
          rw [read, List.append_assoc] at same
          cases symbol with
          | none =>
              obtain ⟨final, ran, ends⟩ := ih after plain same
              exact ⟨final, run_step taken ran, ends⟩
          | some symbol =>
              simp only [Option.toList_some, List.flatMap_singleton] at same
              obtain ⟨left, rfl, cut⟩ := free.front begins (fits.completes taken)
                (same ▸ List.prefix_append _ _) same
              obtain ⟨final, ran, ends⟩ := ih after
                (fun member => plain (List.mem_cons_of_mem _ member)) cut
              exact ⟨final, run_step taken ran, ends⟩

theorem Describes.word_of_run (fits : Describes code stop step bits Holds) {state final : σ}
    {word : List β} (holds : Holds state word) (ran : run step state chunks = some (final, text)) :
    ∃ rest, Holds final rest ∧ word ++ chunks.flatMap bits = text.flatMap code ++ rest := by
  induction chunks generalizing state word text with
  | nil =>
      cases ran
      exact ⟨word, holds, List.append_nil word⟩
  | cons chunk chunks ih =>
      obtain ⟨next, symbol, taken, left, rfl, later⟩ := run_cons ran
      obtain ⟨middle, after, read⟩ := fits.moves holds taken
      obtain ⟨rest, ends, same⟩ := ih after later
      refine ⟨rest, ends, ?_⟩
      rw [List.flatMap_cons, ← List.append_assoc, read, List.append_assoc, same, ← List.append_assoc,
        ← List.flatMap_append]

end Tquic.Lib.PrefixCode
