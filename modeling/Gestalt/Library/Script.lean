import Gestalt.Library.Log
import Mathlib.Computability.Language

/-!
# Gestalt.Library.Script

Programs that follow a script.

A script fixes, without repetition, in which order things are said and which of
them may be left out.  Its words are a finite language with at least one word.
A program follows a script if what it logs is one of the words where it returns,
and the beginning of one where it raises, whatever it is answered.
-/

namespace Effects

/-- What is said, in which order; a part may be one of two. -/
inductive Script (κ : Type) : Type where
  | done
  | say (k : κ)
  | seq (first rest : Script κ)
  | either (left right : Script κ)

namespace Script

variable {κ : Type}

/-- A part that may be left out. -/
def opt (part : Script κ) : Script κ := either done part

/-- The words of a script. -/
def words : Script κ → Language κ
  | done => 1
  | say k => {[k]}
  | seq first rest => first.words * rest.words
  | either left right => left.words + right.words

/-- The word is the beginning of a word of the script. -/
def Begins (script : Script κ) (word : List κ) : Prop :=
  ∃ rest, word ++ rest ∈ script.words

section Words

variable {script first rest part other : Script κ} {word word' : List κ}

theorem mem_words_done : [] ∈ (done : Script κ).words := Language.nil_mem_one

theorem eq_nil_of_mem_words_done (h : word ∈ (done : Script κ).words) : word = [] := by
  simpa only [words, Language.mem_one] using h

theorem eq_nil_of_begins_done (h : (done : Script κ).Begins word) : word = [] := by
  obtain ⟨rest, hword⟩ := h
  exact (List.append_eq_nil_iff.mp (eq_nil_of_mem_words_done hword)).1

theorem mem_words_say (k : κ) : [k] ∈ (say k).words := rfl

theorem mem_words_seq (h : word ∈ first.words) (h' : word' ∈ rest.words) :
    word ++ word' ∈ (seq first rest).words :=
  Language.append_mem_mul h h'

theorem mem_words_left (h : word ∈ part.words) : word ∈ (either part other).words :=
  Or.inl h

theorem mem_words_right (h : word ∈ part.words) : word ∈ (either other part).words :=
  Or.inr h

/-- Every script can be spoken to its end. -/
theorem exists_mem_words (script : Script κ) : ∃ word, word ∈ script.words := by
  induction script with
  | done => exact ⟨[], mem_words_done⟩
  | say k => exact ⟨[k], mem_words_say k⟩
  | seq first rest ihfirst ihrest =>
      obtain ⟨u, hu⟩ := ihfirst
      obtain ⟨v, hv⟩ := ihrest
      exact ⟨u ++ v, mem_words_seq hu hv⟩
  | either left right ihleft _ =>
      obtain ⟨u, hu⟩ := ihleft
      exact ⟨u, mem_words_left hu⟩

theorem begins_of_mem (h : word ∈ script.words) : script.Begins word :=
  ⟨[], by rwa [List.append_nil]⟩

theorem begins_nil (script : Script κ) : script.Begins [] :=
  script.exists_mem_words

/-- What is cut short in the first part is cut short in the whole. -/
theorem Begins.seq (h : first.Begins word) (rest : Script κ) : (seq first rest).Begins word := by
  obtain ⟨u, hu⟩ := h
  obtain ⟨v, hv⟩ := rest.exists_mem_words
  refine ⟨u ++ v, ?_⟩
  rw [← List.append_assoc]
  exact mem_words_seq hu hv

/-- What is cut short after the first part. -/
theorem begins_seq (h : word ∈ first.words) (h' : rest.Begins word') :
    (Script.seq first rest).Begins (word ++ word') := by
  obtain ⟨v, hv⟩ := h'
  refine ⟨v, ?_⟩
  rw [List.append_assoc]
  exact mem_words_seq h hv

theorem Begins.left (h : part.Begins word) : (either part other).Begins word :=
  h.imp fun _ hword => mem_words_left hword

theorem Begins.right (h : part.Begins word) : (either other part).Begins word :=
  h.imp fun _ hword => mem_words_right hword

end Words

/-! ## how often something is said -/

section Most

variable [DecidableEq κ]

/-- How often `k` is said at most. -/
def most (k : κ) : Script κ → Nat
  | done => 0
  | say k' => if k' = k then 1 else 0
  | seq first rest => first.most k + rest.most k
  | either left right => max (left.most k) (right.most k)

theorem count_le_most (k : κ) {script : Script κ} {word : List κ} (h : word ∈ script.words) :
    word.count k ≤ script.most k := by
  induction script generalizing word with
  | done => simp [eq_nil_of_mem_words_done h]
  | say k' =>
      obtain rfl : word = [k'] := h
      simp [most, List.count_singleton]
  | seq first rest ihfirst ihrest =>
      obtain ⟨u, hu, v, hv, rfl⟩ := Language.mem_mul.mp h
      have hu' := ihfirst hu
      have hv' := ihrest hv
      rw [List.count_append, most]
      omega
  | either left right ihleft ihright =>
      rw [most]
      rcases h with h | h
      · exact le_max_of_le_left (ihleft h)
      · exact le_max_of_le_right (ihright h)

/-- The beginning of a word says no more than the word. -/
theorem Begins.count_le {script : Script κ} {word : List κ} (h : script.Begins word) (k : κ) :
    word.count k ≤ script.most k := by
  obtain ⟨rest, hword⟩ := h
  have hcount := count_le_most k hword
  rw [List.count_append] at hcount
  omega

end Most

end Script

namespace Program

variable {I : Interface} {σ ε α β κ : Type}

/-- From any state, `p` returns a value with `ok` after a word of the script, or
raises after the beginning of one. -/
def Follows (obs : Event I → List κ) (p : Program I σ ε α) (script : Script κ)
    (ok : α → Prop) : Prop :=
  ∀ s, Logs obs s p (fun a _ log => log ∈ script.words ∧ ok a) fun _ _ log => script.Begins log

section Rules

variable {obs : Event I → List κ} {script script' first rest : Script κ}
variable {ok ok' : α → Prop} {mid : β → Prop}

/-- The rule of consequence. -/
theorem Follows.mono {p : Program I σ ε α} (h : Follows obs p script ok)
    (hok : ∀ a, ok a → ok' a) : Follows obs p script ok' :=
  fun s => Logs.mono (h s) (fun a _ _ hpost => ⟨hpost.1, hok a hpost.2⟩) fun _ _ _ h => h

theorem Follows.left {p : Program I σ ε α} (h : Follows obs p script ok) :
    Follows obs p (.either script script') ok :=
  fun s => Logs.mono (h s) (fun _ _ _ hpost => ⟨Script.mem_words_left hpost.1, hpost.2⟩)
    fun _ _ _ hbegins => hbegins.left

theorem Follows.right {p : Program I σ ε α} (h : Follows obs p script ok) :
    Follows obs p (.either script' script) ok :=
  fun s => Logs.mono (h s) (fun _ _ _ hpost => ⟨Script.mem_words_right hpost.1, hpost.2⟩)
    fun _ _ _ hbegins => hbegins.right

theorem follows_pure {a : α} (h : ok a) :
    Follows obs (pure a : Program I σ ε α) .done ok :=
  fun _ => logs_pure ⟨Script.mem_words_done, h⟩

/-- What raises before it says anything follows any script. -/
theorem follows_raise {e : ε} : Follows obs (raise e : Program I σ ε α) script ok :=
  fun _ => logs_raise script.begins_nil

theorem follows_ofExcept {x : Except ε α} :
    Follows obs (ofExcept x : Program I σ ε α) .done fun a => x = .ok a := by
  cases x with
  | ok a => exact follows_pure rfl
  | error e => exact follows_raise

theorem follows_read_bind {f : σ → Program I σ ε α} (h : ∀ s, Follows obs (f s) script ok) :
    Follows obs (read >>= f) script ok :=
  fun s => logs_read_bind (h s s)

/-- A program whose questions are not observed. -/
theorem follows_of_asks {may : I.Op → Prop} {p : Program I σ ε α} (h : p.Asks may)
    (hobs : ∀ ev, may ev.op → obs ev = []) : Follows obs p .done fun _ => True := by
  intro s
  have hnone : Logs obs s p (fun _ _ log => ∀ item ∈ log, False)
      fun _ _ log => ∀ item ∈ log, False :=
    logs_of_asks h fun ev hev item hitem => by simp [hobs ev hev] at hitem
  refine hnone.mono (fun a s' log hlog => ?_) fun e s' log hlog => ?_
  · rw [List.eq_nil_iff_forall_not_mem.mpr hlog]
    exact ⟨Script.mem_words_done, trivial⟩
  · rw [List.eq_nil_iff_forall_not_mem.mpr hlog]
    exact Script.begins_nil _

/-- One part after the other. -/
theorem follows_seq {p : Program I σ ε β} {f : β → Program I σ ε α}
    (hp : Follows obs p first mid) (hf : ∀ b, mid b → Follows obs (f b) rest ok) :
    Follows obs (p >>= f) (.seq first rest) ok := by
  intro s
  refine logs_bind (hp s) (fun _ _ _ hbegins => hbegins.seq rest) fun b s' word hpost => ?_
  refine Logs.mono (hf b hpost.2 s') ?_ fun _ _ _ hbegins => Script.begins_seq hpost.1 hbegins
  intro a _ word' hpost'
  exact ⟨Script.mem_words_seq hpost.1 hpost'.1, hpost'.2⟩

/-- A part that says nothing, before the others. -/
theorem follows_silent_bind {p : Program I σ ε β} {f : β → Program I σ ε α}
    (hp : Follows obs p .done mid) (hf : ∀ b, mid b → Follows obs (f b) script ok) :
    Follows obs (p >>= f) script ok := by
  intro s
  refine logs_bind (hp s) (fun _ _ word hbegins => ?_) fun b s' word hpost => ?_
  · rw [Script.eq_nil_of_begins_done hbegins]
    exact script.begins_nil
  · rw [Script.eq_nil_of_mem_words_done hpost.1]
    exact hf b hpost.2 s'

/-- A part that says nothing, after the others. -/
theorem follows_bind_silent {p : Program I σ ε β} {f : β → Program I σ ε α}
    (hp : Follows obs p script mid) (hf : ∀ b, mid b → Follows obs (f b) .done ok) :
    Follows obs (p >>= f) script ok := by
  intro s
  refine logs_bind (hp s) (fun _ _ _ hbegins => hbegins) fun b s' word hpost => ?_
  refine Logs.mono (hf b hpost.2 s') ?_ ?_
  · intro a _ word' hpost'
    rw [Script.eq_nil_of_mem_words_done hpost'.1, List.append_nil]
    exact ⟨hpost.1, hpost'.2⟩
  · intro _ _ word' hbegins
    rw [Script.eq_nil_of_begins_done hbegins, List.append_nil]
    exact Script.begins_of_mem hpost.1

/-- What logs the items of a list follows a script of which these are a word. -/
theorem follows_of_logsAll {p : Program I σ ε α} {items : List κ}
    (h : ∀ s, LogsAll obs s p items ok) (hitems : items ∈ script.words) :
    Follows obs p script ok := by
  refine fun s => Logs.mono (h s) (fun a s' log hpost => ?_) fun e s' log hpost => ?_
  · obtain ⟨-, rfl, hok⟩ := hpost
    exact ⟨hitems, hok⟩
  · obtain ⟨-, rest, rfl⟩ := hpost
    exact ⟨rest, hitems⟩

end Rules

end Program

end Effects
