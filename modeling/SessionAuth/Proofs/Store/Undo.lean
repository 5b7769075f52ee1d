import SessionAuth.Proofs.Store.Serial

/-!
# What a transaction comes to

Requests within a transaction are answered as they would be without it. Committed, the transaction
leaves what the same requests leave without it; rolled back or dropped, it leaves what it began with
(`Vault.transaction_refines`). Its handle is dropped in any case, and then takes back once more
whatever is still in the journal (`emptied`, `undone`).
-/

namespace SessionAuth

namespace Vault

variable {v : Vault} {s : Store}

/-- Makes one request after the other, and gives the answers and the vault after them. No result
means that the caller has to wait. -/
def askAll (v : Vault) (isInside : Bool) : List Request → Option (List Exchange × Vault)
  | [] => some ([], v)
  | r :: requests =>
    (v.reply? isInside (.ask r)).bind fun reply =>
      (reply.state.askAll isInside requests).map fun rest =>
        (⟨.ask r, reply.answer⟩ :: rest.1, rest.2)

/-! ### Before the handle is dropped -/

/-- A commit empties the journal. -/
def emptied (v : Vault) : Vault := ⟨v.store, v.journal.map fun _ => []⟩

/-- A rollback takes the journal back, and empties it. -/
def undone (v : Vault) : Vault := ⟨v.settled, v.journal.map fun _ => []⟩

theorem drop_emptied (v : Vault) : v.emptied.drop = ⟨v.store, none⟩ := by
  obtain ⟨s, _ | journal⟩ := v <;> rfl

theorem drop_undone (v : Vault) : v.undone.drop = v.drop := by
  obtain ⟨s, _ | journal⟩ := v <;> rfl

/-! ### Runs of requests -/

theorem askAll_outside (s : Store) (requests : List Request) :
    askAll ⟨s, none⟩ false requests = some (s.tell requests, ⟨s.afterAll requests, none⟩) := by
  induction requests generalizing s with
  | nil => rfl
  | cons r requests ih =>
    have hreply : reply? ⟨s, none⟩ false (.ask r) = some (answerOutside s r) := rfl
    have hrest := ih (s.answer r).store
    rw [askAll, hreply, Option.bind_some]
    simp only [answerOutside, hrest]
    rfl

/-- The journal grows, and still leads back to where it led. -/
theorem exists_askAll_inside (h : s.IsConsistent) (journal : List Undo) (requests : List Request) :
    ∃ journal' : List Undo,
      askAll ⟨s, some journal⟩ true requests =
        some (s.tell requests, ⟨s.afterAll requests, some journal'⟩) ∧
      settled ⟨s.afterAll requests, some journal'⟩ = settled ⟨s, some journal⟩ := by
  induction requests generalizing s journal with
  | nil => exact ⟨journal, rfl, rfl⟩
  | cons r requests ih =>
    have hreply : reply? ⟨s, some journal⟩ true (.ask r) = some (answerInside s journal r) := rfl
    obtain ⟨journal', hrest, hsettled⟩ :=
      ih (Store.isConsistent_answer h r) (journal ++ (s.answer r).journal)
    refine ⟨journal', ?_, hsettled.trans (settled_inside h journal r)⟩
    rw [askAll, hreply, Option.bind_some]
    simp only [answerInside, hrest]
    rfl

/-! ### How a transaction ends -/

/-- The open transaction returns to one store and, when it is committed, leaves another one. The
journal that is taken back once more, when the handle is dropped, changes neither. -/
structure Spans (v : Vault) (s s' : Store) : Prop where
  commit : v.reply? true .commit = some ⟨.ok (), ⟨s', none⟩, []⟩
  drop_emptied : v.emptied.drop = ⟨s', none⟩
  rollback : v.reply? true .rollback = some ⟨.ok (), ⟨s, none⟩, []⟩
  drop_undone : v.undone.drop = ⟨s, none⟩
  drop : v.drop = ⟨s, none⟩

theorem spans_settled (v : Vault) : v.Spans v.settled v.store where
  commit := rfl
  drop_emptied := drop_emptied v
  rollback := rfl
  drop_undone := drop_undone v
  drop := drop_eq v

/-- Whatever is asked within a transaction, also in vain: the answers are those that the store gives
without it, a commit leaves what the store is then, and a rollback or a drop leaves what it was. -/
theorem transaction_refines (h : s.IsConsistent) (requests : List Request) :
    reply? ⟨s, none⟩ false .begin = some ⟨.ok (), ⟨s, some []⟩, []⟩ ∧
      ∃ (told : List Exchange) (s' : Store) (v : Vault),
        askAll ⟨s, none⟩ false requests = some (told, ⟨s', none⟩) ∧
        askAll ⟨s, some []⟩ true requests = some (told, v) ∧
        v.Spans s s' ∧ s'.IsConsistent := by
  obtain ⟨journal, hinside, hsettled⟩ := exists_askAll_inside h [] requests
  have hspans := spans_settled ⟨s.afterAll requests, some journal⟩
  rw [hsettled] at hspans
  exact ⟨rfl, _, _, _, askAll_outside s requests, hinside, hspans,
    Store.isConsistent_afterAll h requests⟩

/-- A user and a token are created, deleted and created again, two of the creations in vain. -/
def sampleRequests : List Request :=
  [.createToken default, .createUser default, .createToken default, .createToken default,
    .deleteToken (default : RefreshToken).id, .createToken default,
    .deleteTokensOf (default : RefreshToken).owner, .findUser (default : User).id]

theorem transaction_refines_sample :
    ∃ (told : List Exchange) (s' : Store) (v : Vault),
      askAll ⟨.empty, none⟩ false sampleRequests = some (told, ⟨s', none⟩) ∧
      askAll ⟨.empty, some []⟩ true sampleRequests = some (told, v) ∧ v.Spans .empty s' ∧
      told.map (·.answer.isOk) = [false, true, true, false, true, true, true, true] ∧
      s'.users.contains (default : User).id := by
  obtain ⟨-, told, s', v, houtside, hinside, hspans, -⟩ :=
    transaction_refines Store.isConsistent_empty sampleRequests
  have hrun := (askAll_outside .empty sampleRequests).symm.trans houtside
  simp only [Option.some.injEq, Prod.mk.injEq, Vault.mk.injEq, and_true] at hrun
  obtain ⟨rfl, rfl⟩ := hrun
  exact ⟨_, _, v, houtside, hinside, hspans, rfl, rfl⟩

end Vault

end SessionAuth
