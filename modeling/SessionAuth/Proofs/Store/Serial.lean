import SessionAuth.Proofs.Store.Transaction

/-!
# Serial runs

Requests and whole transactions of several clients, one after the other (`Entry`). What they are
told and what they leave is given by the store alone: a transaction that is not committed leaves
nothing (`Entry.leave`). The vault does the same when it is called in that order and nobody else
calls it (`Vault.serves_of_agrees`).
-/

namespace SessionAuth

/-- How a transaction ends. -/
inductive Ending where
  | commit
  | rollback
  | drop
deriving DecidableEq

/-- What a client asked while it had the store to itself, and what it was told so far: a request of
its own, or a transaction, which has an ending once it is over. -/
inductive Entry where
  | request (r : Request) (told : Option (Except Failure r.Answer))
  | transaction (requests : List Request) (told : List Exchange) (ending : Option Ending)

/-! ### On a store -/

namespace Store

variable {s : Store}

/-- The store after some requests, one after the other. -/
def afterAll (s : Store) (requests : List Request) : Store :=
  requests.foldl (fun s r => (s.answer r).store) s

/-- What the store tells when it is asked one request after the other. -/
def tell (s : Store) : List Request → List Exchange
  | [] => []
  | r :: requests => ⟨.ask r, (s.answer r).answer⟩ :: (s.answer r).store.tell requests

theorem afterAll_concat (requests : List Request) (r : Request) :
    s.afterAll (requests ++ [r]) = ((s.afterAll requests).answer r).store := by
  simp [afterAll]

theorem tell_concat (requests : List Request) (r : Request) :
    s.tell (requests ++ [r]) =
      s.tell requests ++ [⟨.ask r, ((s.afterAll requests).answer r).answer⟩] := by
  induction requests generalizing s with
  | nil => rfl
  | cons r' requests ih => exact congrArg (_ :: ·) ih

theorem isConsistent_afterAll (h : s.IsConsistent) (requests : List Request) :
    (s.afterAll requests).IsConsistent := by
  induction requests generalizing s with
  | nil => exact h
  | cons r requests ih => exact ih (isConsistent_answer h r)

end Store

namespace Entry

/-- The store that an entry leaves. A transaction that is not committed leaves no trace. -/
def leave (s : Store) : Entry → Store
  | request r _ => (s.answer r).store
  | transaction requests _ ending => if ending = some .commit then s.afterAll requests else s

/-- What was told so far is what the store tells. -/
def Agrees (s : Store) : Entry → Prop
  | request r told => ∀ x, told = some x → x = (s.answer r).answer
  | transaction requests told _ => told = s.tell requests

/-- The request is answered, or the transaction is over. -/
def IsDone : Entry → Prop
  | request _ told => told.isSome
  | transaction _ _ ending => ending.isSome

/-- One more request of a transaction. -/
def grow (e : Exchange) (r : Request) : Entry → Entry
  | transaction requests told ending => transaction (requests ++ [r]) (told ++ [e]) ending
  | e => e

/-- The end of a transaction. -/
def close (ending : Ending) : Entry → Entry
  | transaction requests told _ => transaction requests told (some ending)
  | e => e

end Entry

namespace Store

variable {s : Store} {log : List Entry} {e e' : Entry}

/-- The store after some entries, one after the other. -/
def after (s : Store) (log : List Entry) : Store := log.foldl Entry.leave s

theorem after_concat (log : List Entry) (e : Entry) :
    s.after (log ++ [e]) = e.leave (s.after log) := by
  simp [after]

theorem isConsistent_leave (h : s.IsConsistent) (e : Entry) : (e.leave s).IsConsistent := by
  cases e with
  | request r told => exact isConsistent_answer h r
  | transaction requests told ending =>
    simp only [Entry.leave]
    split
    · exact isConsistent_afterAll h requests
    · exact h

theorem isConsistent_after (h : s.IsConsistent) (log : List Entry) :
    (s.after log).IsConsistent := by
  induction log generalizing s with
  | nil => exact h
  | cons e log ih => exact ih (isConsistent_leave h e)

/-- What was told in each entry is what the store tells after those before it. -/
def AgreesWith (s : Store) (log : List Entry) : Prop :=
  ∀ (n : Nat) (e : Entry), log[n]? = some e → e.Agrees (s.after (log.take n))

theorem agreesWith_concat (h : s.AgreesWith log) (he : e.Agrees (s.after log)) :
    s.AgreesWith (log ++ [e]) := by
  intro n e' hn
  rcases Nat.lt_trichotomy n log.length with hlt | heq | hgt
  · rw [List.getElem?_append_left hlt] at hn
    rw [List.take_append_of_le_length (Nat.le_of_lt hlt)]
    exact h n e' hn
  · subst heq
    simp only [List.getElem?_concat_length, Option.some.injEq] at hn
    rw [List.take_left', ← hn]
    · exact he
    · rfl
  · have hlen : (log ++ [e]).length ≤ n := by
      rw [List.length_append, List.length_singleton]
      omega
    rw [List.getElem?_eq_none hlen] at hn
    cases hn

theorem AgreesWith.of_concat (h : s.AgreesWith (log ++ [e])) :
    s.AgreesWith log ∧ e.Agrees (s.after log) := by
  refine ⟨fun n e' hn => ?_, ?_⟩
  · have hlt : n < log.length := (List.getElem?_eq_some_iff.1 hn).1
    have h' := h n e' (by rw [List.getElem?_append_left hlt]; exact hn)
    rw [List.take_append_of_le_length (Nat.le_of_lt hlt)] at h'
    exact h'
  · have h' := h log.length e (by simp)
    rw [List.take_left' rfl] at h'
    exact h'

/-- An entry that leaves the same may stand for another one. -/
theorem after_set {n : Nat} (hn : log[n]? = some e) (he : ∀ s, e'.leave s = e.leave s) :
    s.after (log.set n e') = s.after log := by
  induction log generalizing s n with
  | nil => rfl
  | cons e₁ log ih =>
    cases n with
    | zero =>
      cases hn
      exact congrArg (·.after log) (he s)
    | succ n => exact ih hn

theorem AgreesWith.set {n : Nat} (h : s.AgreesWith log) (hn : log[n]? = some e)
    (he : ∀ s, e'.leave s = e.leave s) (ha : e'.Agrees (s.after (log.take n))) :
    s.AgreesWith (log.set n e') := by
  intro m e₁ hm
  have htake : s.after ((log.set n e').take m) = s.after (log.take m) := by
    rw [List.take_set]
    by_cases hlt : n < m
    · exact after_set (by rw [List.getElem?_take_of_lt hlt]; exact hn) he
    · rw [List.set_eq_of_length_le]
      exact Nat.le_trans (List.length_take_le m log) (Nat.le_of_not_lt hlt)
  rw [htake]
  rw [List.getElem?_set] at hm
  split_ifs at hm with hnm hlt
  · subst hnm
    cases hm
    exact ha
  · exact h m e₁ hm

end Store

/-! ### On a vault -/

namespace Vault

variable {v w : Vault} {s : Store} {isInside : Bool}

/-- A caller makes some calls one after the other, with nobody else at the vault, and drops the
transaction if it is left in one. -/
inductive Serves : Vault → (isInside : Bool) → List Exchange → Vault → Prop
  | outside (v : Vault) : Serves v false [] v
  | dropped (v : Vault) : Serves v true [] v.drop
  | call {v w : Vault} {isInside : Bool} {c : Call} {reply : Reply Vault c.Answer}
    {history : List Exchange} (h : v.reply? isInside c = some reply)
    (hs : Serves reply.state (c.isInsideAfter isInside reply.answer) history w) :
    Serves v isInside (⟨c, reply.answer⟩ :: history) w

/-- Callers one after the other, each with calls of its own. -/
def ServesAll (v : Vault) : List (List Exchange) → Vault → Prop
  | [], w => w = v
  | history :: histories, w => ∃ mid, v.Serves false history mid ∧ mid.ServesAll histories w

end Vault

/-- The calls that an entry stands for, and their answers. -/
def Entry.calls : Entry → List Exchange
  | request r told => (told.map fun x => ⟨.ask r, x⟩).toList
  | transaction _ told ending =>
    ⟨.begin, .ok ()⟩ :: told ++
      match ending with
      | some .commit => [.commitment]
      | some .rollback => [⟨.rollback, .ok ()⟩]
      | _ => []

namespace Vault

variable {s : Store}

/-- Requests within a transaction, and whatever comes after them. -/
theorem Serves.within {journal : List Undo} {requests : List Request} {history : List Exchange}
    {w : Vault} (h : s.IsConsistent)
    (hs : ∀ journal', settled ⟨s.afterAll requests, some journal'⟩ = settled ⟨s, some journal⟩ →
      Serves ⟨s.afterAll requests, some journal'⟩ true history w) :
    Serves ⟨s, some journal⟩ true (s.tell requests ++ history) w := by
  induction requests generalizing s journal with
  | nil => exact hs journal rfl
  | cons r requests ih =>
    have hreply : reply? ⟨s, some journal⟩ true (.ask r) = some (answerInside s journal r) := rfl
    refine .call hreply (ih (Store.isConsistent_answer h r) fun journal' hj => hs journal' ?_)
    exact hj.trans (settled_inside h journal r)

/-- The vault carries out an entry as the store does. -/
theorem serves_of_agrees (h : s.IsConsistent) {e : Entry} (ha : e.Agrees s) (hd : e.IsDone) :
    Serves ⟨s, none⟩ false e.calls ⟨e.leave s, none⟩ := by
  cases e with
  | request r told =>
    obtain ⟨x, rfl⟩ := Option.isSome_iff_exists.1 hd
    have hx := ha x rfl
    subst hx
    have hreply : reply? ⟨s, none⟩ false (.ask r) = some (answerOutside s r) := rfl
    exact .call hreply (.outside _)
  | transaction requests told ending =>
    obtain ⟨ending, rfl⟩ := Option.isSome_iff_exists.1 hd
    have htold : told = s.tell requests := ha
    subst htold
    have hbegin : reply? ⟨s, none⟩ false .begin = some ⟨.ok (), ⟨s, some []⟩, []⟩ := rfl
    refine Serves.call hbegin (Serves.within h fun journal hj => ?_)
    have hdrop : drop ⟨s.afterAll requests, some journal⟩ = ⟨s, none⟩ := by
      rw [drop_eq, hj]
      rfl
    cases ending with
    | commit =>
      have hcommit : reply? ⟨s.afterAll requests, some journal⟩ true .commit =
          some ⟨.ok (), ⟨s.afterAll requests, none⟩, []⟩ := rfl
      exact .call hcommit (.outside _)
    | rollback =>
      have hrollback : reply? ⟨s.afterAll requests, some journal⟩ true .rollback =
          some ⟨.ok (), ⟨s, none⟩, []⟩ := by
        rw [← hdrop]
        rfl
      exact .call hrollback (.outside _)
    | drop =>
      have hdropped := Serves.dropped ⟨s.afterAll requests, some journal⟩
      rw [hdrop] at hdropped
      exact hdropped

/-- The vault carries out entries one after the other as the store does. -/
theorem servesAll_of_agreesWith {log : List Entry} (h : s.IsConsistent) (ha : s.AgreesWith log)
    (hd : ∀ e ∈ log, e.IsDone) :
    ServesAll ⟨s, none⟩ (log.map Entry.calls) ⟨s.after log, none⟩ := by
  induction log generalizing s with
  | nil => rfl
  | cons e log ih =>
    refine ⟨⟨e.leave s, none⟩, serves_of_agrees h (ha 0 e rfl) (hd e List.mem_cons_self),
      ih (Store.isConsistent_leave h e) (fun n e' he' => ha (n + 1) e' he') fun e' he' => ?_⟩
    exact hd e' (List.mem_cons_of_mem e he')

end Vault

end SessionAuth
