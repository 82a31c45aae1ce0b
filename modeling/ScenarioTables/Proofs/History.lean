import ScenarioTables.Proofs.Ledger

/-!
# Histories of a ledger

Contexts are opened inside one another, reported in and read, in any order. After such a history
the document has counted everything that was reported, and each context what was reported in it or
further inwards before its verdict was first read; every reading of the verdict, the first and any
later one, is about that same tally (`performAll_counts`). Which other accounts were closed in
between makes no difference.

A context further inwards is one whose lineage ends with that of the outer context. One step is
followed for one account (`CallAccount.Counts`) and then for the ledger (`Accounted.perform`); the
history is the induction over its steps (`Accounted.performAll`). An account is only ever named by a
context that is open, so histories that make up a lineage are left out (`History.Valid`).
-/

set_option autoImplicit false

namespace ScenarioTables

/-- What can be done with a ledger. -/
inductive Operation where
  /-- Opens a context inside another. -/
  | nest (scope : Scope)
  /-- Reports one verdict. -/
  | report (scope : Scope) (verdict : Verdict)
  | reportAll (scope : Scope) (tally : Tally)
  | readVerdict (scope : Scope)
  deriving DecidableEq, Repr

namespace Operation

/-- Reports a pass. -/
def passed (scope : Scope) : Operation :=
  .report scope .pass

/-- Reports a failure. -/
def failed (scope : Scope) : Operation :=
  .report scope .fail

/-- Reports an error. -/
def errored (scope : Scope) : Operation :=
  .report scope .error

/-- Reports that something was ignored. -/
def ignored (scope : Scope) : Operation :=
  .report scope .ignore

/-- The context that an operation is about. -/
def scope : Operation → Scope
  | .nest scope | .report scope _ | .reportAll scope _ | .readVerdict scope => scope

/-- How often an operation reports a verdict. -/
def amount : Operation → Verdict → Nat
  | .report _ reported, verdict => if verdict = reported then 1 else 0
  | .reportAll _ tally, verdict => tally.countOf verdict
  | .nest _, _ | .readVerdict _, _ => 0

/-- The contexts after an operation, by number. -/
def opened (contexts : List Scope) : Operation → List Scope
  | .nest scope => contexts ++ [contexts.length :: scope]
  | .report _ _ | .reportAll _ _ | .readVerdict _ => contexts

/-- An operation is about one of the contexts or about the document, whose verdict is not read. -/
def On (contexts : List Scope) : Operation → Prop
  | .nest scope | .report scope _ | .reportAll scope _ => scope ∈ [] :: contexts
  | .readVerdict scope => scope ∈ contexts

instance (contexts : List Scope) (operation : Operation) : Decidable (operation.On contexts) :=
  match operation with
  | .nest scope | .report scope _ | .reportAll scope _ =>
    inferInstanceAs (Decidable (scope ∈ [] :: contexts))
  | .readVerdict scope => inferInstanceAs (Decidable (scope ∈ contexts))

end Operation

namespace Ledger

/-- Carries out an operation; the answer is the verdict that was read, if one was. -/
def perform (ledger : Ledger) : Operation → Option (Option Verdict × Ledger)
  | .nest scope => some (none, (ledger.nest scope).2)
  | .report scope verdict => (ledger.report scope verdict).map (none, ·)
  | .reportAll scope tally => (ledger.reportAll scope tally).map (none, ·)
  | .readVerdict scope => some (some (ledger.readVerdict scope).1, (ledger.readVerdict scope).2)

/-- The reports by name are carried out as the ledger makes them. -/
theorem perform_named (ledger : Ledger) (scope : Scope) :
    ledger.perform (.passed scope) = (ledger.reportPassed scope).map (none, ·)
      ∧ ledger.perform (.failed scope) = (ledger.reportFailed scope).map (none, ·)
      ∧ ledger.perform (.errored scope) = (ledger.reportErrored scope).map (none, ·)
      ∧ ledger.perform (.ignored scope) = (ledger.reportIgnored scope).map (none, ·) :=
  ⟨rfl, rfl, rfl, rfl⟩

/-- Carries out some operations; nothing comes of them if a tally overflows. -/
def performAll (ledger : Ledger) : List Operation → Option (List (Option Verdict) × Ledger)
  | [] => some ([], ledger)
  | operation :: rest => do
    let (answer, next) ← ledger.perform operation
    let (answers, last) ← next.performAll rest
    return (answer :: answers, last)

end Ledger

/-- Operations in the order in which they are carried out. -/
abbrev History := List Operation

namespace History

/-- The contexts that a history opened, by number. -/
def contexts (history : History) : List Scope :=
  history.foldl Operation.opened []

/-- **A valid history**: each operation is about a context that was open by then. -/
def Valid (history : History) : Prop :=
  ∀ index, ∀ h : index < history.length,
    (history.get ⟨index, h⟩).On (contexts (history.take index))

instance (history : History) : Decidable history.Valid :=
  inferInstanceAs (Decidable (∀ index, ∀ h : index < history.length,
    (history.get ⟨index, h⟩).On (contexts (history.take index))))

/-- How often a history reports a verdict. -/
def total (history : History) (verdict : Verdict) : Nat :=
  history.foldr (fun operation count => operation.amount verdict + count) 0

/-- What was done in a context or further inwards before its verdict was first read. -/
def heard (history : History) (scope : Scope) : History :=
  (history.takeWhile (· ≠ .readVerdict scope)).filter (scope <:+ ·.scope)

variable {history rest : History} {operation : Operation} {scope : Scope} {verdict : Verdict}

theorem contexts_concat (history : History) (operation : Operation) :
    contexts (history ++ [operation]) = operation.opened history.contexts :=
  List.foldl_append.trans rfl

/-- In a valid history an operation is about a context that those before it have opened. -/
theorem Valid.on (h : Valid (history ++ operation :: rest)) : operation.On history.contexts := by
  have hindex : history.length < (history ++ operation :: rest).length := by
    rw [List.length_append, List.length_cons]
    omega
  have hon := h history.length hindex
  rw [List.take_left, List.get_eq_getElem, List.getElem_append_right (Nat.le_refl _)] at hon
  simpa only [Nat.sub_self, List.getElem_cons_zero] using hon

theorem total_append (first later : History) (verdict : Verdict) :
    total (first ++ later) verdict = total first verdict + total later verdict := by
  induction first with
  | nil => exact (Nat.zero_add _).symm
  | cons operation first ih =>
    rw [List.cons_append, total, List.foldr_cons, total, List.foldr_cons, Nat.add_assoc]
    exact congrArg (operation.amount verdict + ·) ih

theorem total_concat (history : History) (operation : Operation) (verdict : Verdict) :
    total (history ++ [operation]) verdict = total history verdict + operation.amount verdict := by
  rw [total_append]
  rfl

/-! ## What a context hears -/

/-- Once a verdict was read its context hears nothing any more. -/
theorem heard_append_of_mem (hread : .readVerdict scope ∈ history) (rest : History) :
    heard (history ++ rest) scope = heard history scope := by
  rw [heard, List.takeWhile_append, if_neg, heard]
  intro hlength
  have hprefix := List.takeWhile_prefix (p := (· ≠ Operation.readVerdict scope)) (l := history)
  have hwhole := hprefix.eq_of_length hlength
  have hall := List.all_takeWhile (p := fun operation => decide (operation ≠ .readVerdict scope))
    (l := history)
  rw [hwhole] at hall
  exact of_decide_eq_true (List.all_eq_true.mp hall _ hread) rfl

/-- Until then it hears everything that is done in it or further inwards. -/
theorem heard_append (hread : .readVerdict scope ∉ history) (rest : History) :
    heard (history ++ rest) scope = heard history scope ++ heard rest scope := by
  have hbefore (earlier : Operation) (hmem : earlier ∈ history) :
      decide (earlier ≠ .readVerdict scope) = true :=
    decide_eq_true fun heq => hread (heq ▸ hmem)
  have hwhole : history.takeWhile (· ≠ .readVerdict scope) = history := by
    rw [← List.append_nil history, List.takeWhile_append_of_pos hbefore]
    rfl
  rw [heard, List.takeWhile_append_of_pos hbefore, List.filter_append, heard, hwhole, heard]

theorem heard_singleton (hother : operation ≠ .readVerdict scope) :
    heard [operation] scope = if scope <:+ operation.scope then [operation] else [] := by
  simp [heard, hother, List.filter_cons]

/-- It hears nothing from its first reading on. -/
theorem heard_read (history rest : History) (scope : Scope) :
    heard (history ++ .readVerdict scope :: rest) scope = heard history scope := by
  by_cases hread : .readVerdict scope ∈ history
  · exact heard_append_of_mem hread _
  · have hrest : heard (.readVerdict scope :: rest) scope = [] := by
      simp [heard]
    rw [heard_append hread, hrest, List.append_nil]

end History

namespace CallAccount

open History

variable {history : History} {operation : Operation} {scope : Scope} {account : CallAccount}

/-- **An account that has counted a history** as the account of one context. -/
structure Counts (account : CallAccount) (history : History) (scope : Scope) : Prop where
  closed : account.closed = true ↔ .readVerdict scope ∈ history
  counts : ∀ verdict, account.tally.countOf verdict = (history.heard scope).total verdict

/-- A change of the tally neither closes nor opens an account. -/
theorem closed_changed (change : Tally → Option Tally) (account : CallAccount) :
    (account.changed change).closed = account.closed := by
  unfold changed
  split <;> rfl

/-- A new account has counted a history in which nothing was done in its context. -/
theorem counts_fresh (h : ∀ operation ∈ history, ¬ scope <:+ operation.scope) :
    Counts ⟨.zero, false⟩ history scope := by
  have hread : .readVerdict scope ∉ history := fun hmem => h _ hmem List.suffix_rfl
  have hheard : history.heard scope = [] := by
    rw [heard, List.filter_eq_nil_iff]
    intro operation hmem hinside
    have hhistory := (List.takeWhile_prefix _).subset hmem
    exact h operation hhistory (of_decide_eq_true hinside)
  constructor
  case closed =>
    simp only [Bool.false_eq_true, hread]
  case counts =>
    intro verdict
    rw [hheard, Tally.countOf_zero]
    rfl

/-- An operation elsewhere, or one that reports nothing, leaves the account as it is. -/
theorem Counts.keep (h : account.Counts history scope) (hother : operation ≠ .readVerdict scope)
    (hquiet : scope <:+ operation.scope → ∀ verdict, operation.amount verdict = 0) :
    account.Counts (history ++ [operation]) scope := by
  constructor
  case closed =>
    rw [h.closed, List.mem_append, List.mem_singleton, or_iff_left hother.symm]
  case counts =>
    intro verdict
    rw [h.counts]
    by_cases hread : .readVerdict scope ∈ history
    · rw [heard_append_of_mem hread]
    · rw [heard_append hread, total_append, heard_singleton hother]
      split
      next hinside => exact (Nat.add_eq_left.mpr (hquiet hinside verdict)).symm
      next => rfl

/-- A report in the context or further inwards is counted while the account is open. -/
theorem Counts.change (h : account.Counts history scope) (hother : operation ≠ .readVerdict scope)
    (hinside : scope <:+ operation.scope) {change : Tally → Option Tally}
    (hadds : Tally.Adds change operation.amount) {tally : Tally}
    (htally : change account.tally = some tally) :
    (account.changed change).Counts (history ++ [operation]) scope := by
  constructor
  case closed =>
    rw [closed_changed, h.closed, List.mem_append, List.mem_singleton, or_iff_left hother.symm]
  case counts =>
    intro verdict
    unfold changed
    by_cases hread : .readVerdict scope ∈ history
    · rw [if_pos (h.closed.mpr hread), heard_append_of_mem hread]
      exact h.counts verdict
    · rw [if_neg (mt h.closed.mp hread), heard_append hread, total_append, heard_singleton hother,
        if_pos hinside, htally, Option.getD_some, hadds.counts htally, h.counts]
      rfl

/-- Reading the verdict closes the account. -/
theorem Counts.close (h : account.Counts history scope) :
    Counts { account with closed := true } (history ++ [.readVerdict scope]) scope := by
  constructor
  case closed =>
    simp
  case counts =>
    intro verdict
    rw [h.counts, heard_read]

end CallAccount

/-! ## Lineages -/

/-- **The scopes of open contexts are lineages**: each stands under its own number, and it encloses
exactly the scopes that this number occurs in. -/
structure Lineages (contexts : List Scope) : Prop where
  number : ∀ {number : Nat} {scope : Scope}, contexts[number]? = some scope →
    scope.head? = some number
  nodup : ∀ scope ∈ [] :: contexts, scope.Nodup
  known : ∀ scope ∈ [] :: contexts, ∀ number ∈ scope, number < contexts.length
  encloses : ∀ {number : Nat} {context : Scope}, contexts[number]? = some context →
    ∀ scope ∈ [] :: contexts, (number ∈ scope ↔ context <:+ scope)

theorem lineages_nil : Lineages [] := by
  constructor <;> simp

/-- The context under a number is an old one or the one just opened. -/
theorem getElem?_concat {contexts : List Scope} {opened scope : Scope} {number : Nat}
    (h : (contexts ++ [opened])[number]? = some scope) :
    contexts[number]? = some scope ∨ number = contexts.length ∧ scope = opened := by
  rw [List.getElem?_append] at h
  split at h
  next => exact .inl h
  next hge =>
    rw [List.getElem?_singleton] at h
    split at h
    next hlast => exact .inr ⟨by omega, (Option.some.inj h).symm⟩
    next => cases h

/-- A new context is enclosed by itself and by the contexts around it. -/
theorem Lineages.nest {contexts : List Scope} (h : Lineages contexts) {outer : Scope}
    (houter : outer ∈ [] :: contexts) : Lineages (contexts ++ [contexts.length :: outer]) := by
  have hnew (scope : Scope) (hscope : scope ∈ [] :: contexts) : contexts.length ∉ scope :=
    fun hmem => Nat.lt_irrefl _ (h.known scope hscope _ hmem)
  have hmem {scope : Scope} : scope ∈ [] :: (contexts ++ [contexts.length :: outer]) ↔
      scope ∈ [] :: contexts ∨ scope = contexts.length :: outer := by
    rw [← List.cons_append, List.mem_append, List.mem_singleton]
  constructor
  case number =>
    intro number scope hscope
    rcases getElem?_concat hscope with hold | ⟨rfl, rfl⟩
    · exact h.number hold
    · rfl
  case nodup =>
    intro scope hscope
    rcases hmem.mp hscope with hold | rfl
    · exact h.nodup scope hold
    · exact List.nodup_cons.mpr ⟨hnew outer houter, h.nodup outer houter⟩
  case known =>
    intro scope hscope number hnumber
    rw [List.length_append, List.length_singleton]
    rcases hmem.mp hscope with hold | rfl
    · exact Nat.lt_succ_of_lt (h.known scope hold number hnumber)
    · rcases List.mem_cons.mp hnumber with rfl | hinner
      · exact Nat.lt_succ_self _
      · exact Nat.lt_succ_of_lt (h.known outer houter number hinner)
  case encloses =>
    intro number context hcontext scope hscope
    rcases getElem?_concat hcontext with hold | ⟨rfl, rfl⟩
    · rcases hmem.mp hscope with hscope | rfl
      · exact h.encloses hold scope hscope
      · have hlt := (List.getElem?_eq_some_iff.mp hold).1
        have hdiffer : context ≠ contexts.length :: outer := by
          rintro rfl
          have hhead := Option.some.inj (h.number hold)
          omega
        rw [List.mem_cons, List.suffix_cons_iff, or_iff_right (Nat.ne_of_lt hlt),
          or_iff_right hdiffer]
        exact h.encloses hold outer houter
    · rcases hmem.mp hscope with hscope | rfl
      · refine iff_of_false (hnew scope hscope) fun hsuffix => ?_
        exact hnew scope hscope (hsuffix.mem List.mem_cons_self)
      · exact iff_of_true List.mem_cons_self List.suffix_rfl

/-! ## One step -/

/-- **A ledger that has counted a history**: the document counts all of it, and the account under
each number counts it as the account of its context. -/
structure Accounted (history : History) (ledger : Ledger) : Prop where
  lineages : Lineages history.contexts
  passed : ∀ operation ∈ history, ∀ number ∈ operation.scope, number < history.contexts.length
  bounded : ledger.Bounded
  document : ∀ verdict, ledger.document.countOf verdict = history.total verdict
  length : ledger.calls.length = history.contexts.length
  account : ∀ {number : Nat} {scope : Scope}, history.contexts[number]? = some scope →
    ∃ account, ledger.calls[number]? = some account ∧ account.Counts history scope

theorem accounted_empty : Accounted [] .empty where
  lineages := lineages_nil
  passed _ h := nomatch h
  bounded _ h := nomatch h
  document := Tally.countOf_zero
  length := rfl
  account h := nomatch h

/-- The context of an operation is open or is the document. -/
theorem Operation.On.mem {contexts : List Scope} {operation : Operation}
    (h : operation.On contexts) : operation.scope ∈ [] :: contexts := by
  cases operation with
  | nest | report | reportAll => exact h
  | readVerdict => exact List.mem_cons_of_mem _ h

namespace Accounted

variable {history : History} {operation : Operation} {ledger : Ledger} {document : Tally}
  {change : Tally → Option Tally}

/-- The numbers of an operation and of those before it are known. -/
theorem passed_concat (h : Accounted history ledger) (hon : operation.On history.contexts) :
    ∀ other ∈ history ++ [operation], ∀ number ∈ other.scope,
      number < history.contexts.length := by
  intro other hother
  rcases List.mem_append.mp hother with hearlier | hlast
  · exact h.passed other hearlier
  · rw [List.mem_singleton.mp hlast]
    exact h.lineages.known _ hon.mem

/-- A report is counted by the document and by the account of every context around it. -/
theorem updated (h : Accounted history ledger) (hon : operation.On history.contexts)
    (hopened : operation.opened history.contexts = history.contexts)
    (hread : ∀ scope, operation ≠ .readVerdict scope)
    (hadds : Tally.Adds change operation.amount)
    (hchange : change ledger.document = some document) :
    Accounted (history ++ [operation]) (ledger.updated operation.scope change document) := by
  have hcontexts := (History.contexts_concat history operation).trans hopened
  refine ⟨hcontexts ▸ h.lineages, hcontexts ▸ h.passed_concat hon,
    h.bounded.updated hadds hchange _, ?_, ?_, ?_⟩
  · intro verdict
    rw [History.total_concat, ← h.document]
    exact hadds.counts hchange verdict
  · rw [hcontexts, ← h.length]
    exact List.length_mapIdx
  · intro number scope hscope
    rw [hcontexts] at hscope
    obtain ⟨account, haccount, hcounts⟩ := h.account hscope
    -- The ledger looks for the number in the scope, the history asks whose lineage it extends.
    have hencloses := h.lineages.encloses hscope operation.scope hon.mem
    rw [Ledger.getElem?_updated, haccount]
    refine ⟨_, rfl, ?_⟩
    split
    next hinside =>
      obtain ⟨tally, htally⟩ := hadds.of_le hchange
        (h.bounded account (List.mem_of_getElem? haccount))
      exact hcounts.change (hread scope) (hencloses.mp hinside) hadds htally
    next houtside =>
      exact hcounts.keep (hread scope) fun hinside => absurd (hencloses.mpr hinside) houtside

/-- A new context has an account that has counted nothing. -/
theorem nest (h : Accounted history ledger) {outer : Scope}
    (houter : outer ∈ [] :: history.contexts) :
    Accounted (history ++ [Operation.nest outer]) (ledger.nest outer).2 := by
  have hcontexts : History.contexts (history ++ [Operation.nest outer])
      = history.contexts ++ [history.contexts.length :: outer] := History.contexts_concat _ _
  have hon : (Operation.nest outer).On history.contexts := houter
  have hpassed := h.passed_concat hon
  constructor
  case lineages =>
    rw [hcontexts]
    exact h.lineages.nest houter
  case passed =>
    rw [hcontexts, List.length_append]
    intro operation hoperation number hnumber
    exact Nat.lt_add_right _ (hpassed operation hoperation number hnumber)
  case bounded =>
    intro account haccount verdict
    rcases List.mem_append.mp haccount with hold | hlast
    · exact h.bounded account hold verdict
    · rw [List.mem_singleton.mp hlast, Tally.countOf_zero]
      exact Nat.zero_le _
  case document =>
    intro verdict
    rw [History.total_concat]
    exact h.document verdict
  case length =>
    rw [hcontexts, List.length_append, ← h.length]
    exact List.length_append
  case account =>
    intro number scope hscope
    rw [hcontexts] at hscope
    rcases getElem?_concat hscope with hold | ⟨rfl, rfl⟩
    · obtain ⟨account, haccount, hcounts⟩ := h.account hold
      refine ⟨account, ?_, hcounts.keep nofun fun _ _ => rfl⟩
      exact (List.getElem?_append_left (List.getElem?_eq_some_iff.mp haccount).1).trans haccount
    · -- Nothing was done inwards of the new context: its number was not known so far.
      refine ⟨⟨.zero, false⟩, ?_, CallAccount.counts_fresh fun operation hoperation hinside => ?_⟩
      · rw [← h.length]
        exact List.getElem?_concat_length
      · exact Nat.lt_irrefl _ (hpassed operation hoperation _ (hinside.mem List.mem_cons_self))

/-- Reading a verdict closes the account of its context and no other. -/
theorem close (h : Accounted history ledger) {scope : Scope} (hscope : scope ∈ history.contexts) :
    Accounted (history ++ [Operation.readVerdict scope]) (ledger.close scope) := by
  have hcontexts : History.contexts (history ++ [Operation.readVerdict scope]) = history.contexts :=
    History.contexts_concat _ _
  obtain ⟨number, hnumber⟩ := List.getElem?_of_mem hscope
  obtain ⟨outer, rfl⟩ := List.head?_eq_some_iff.mp (h.lineages.number hnumber)
  have hlength : (ledger.close (number :: outer)).calls.length = ledger.calls.length :=
    List.length_modify _ _ _
  refine ⟨hcontexts ▸ h.lineages, hcontexts ▸ h.passed_concat hscope, h.bounded.close _, ?_,
    by rw [hcontexts, hlength, h.length], ?_⟩
  · intro verdict
    rw [History.total_concat, Ledger.close_document]
    exact h.document verdict
  · intro index context hcontext
    rw [hcontexts] at hcontext
    obtain ⟨account, haccount, hcounts⟩ := h.account hcontext
    rw [Ledger.getElem?_close, haccount]
    refine ⟨_, rfl, ?_⟩
    split
    next hsame =>
      subst hsame
      cases hnumber.symm.trans hcontext
      exact hcounts.close
    next hother =>
      refine hcounts.keep ?_ fun _ _ => rfl
      rintro ⟨⟩
      exact hother (Option.some.inj (h.lineages.number hcontext))

/-- The tally of a context is that of its account. -/
theorem countOf_tallyOf (h : Accounted history ledger) {scope : Scope}
    (hscope : scope ∈ history.contexts) (verdict : Verdict) :
    (ledger.tallyOf scope).countOf verdict = (history.heard scope).total verdict := by
  obtain ⟨number, hnumber⟩ := List.getElem?_of_mem hscope
  obtain ⟨outer, rfl⟩ := List.head?_eq_some_iff.mp (h.lineages.number hnumber)
  obtain ⟨account, haccount, hcounts⟩ := h.account hnumber
  rw [Ledger.tallyOf, haccount]
  exact hcounts.counts verdict

/-- What the document has counted stays below `2 ^ 32`. -/
theorem total_lt (h : Accounted history ledger) (verdict : Verdict) :
    history.total verdict < UInt32.size := by
  rw [← h.document]
  exact Tally.countOf_lt _ _

/-- A report is made unless the document has no room for it. -/
theorem update (h : Accounted history ledger) (hon : operation.On history.contexts)
    (hopened : operation.opened history.contexts = history.contexts)
    (hread : ∀ scope, operation ≠ .readVerdict scope) (hadds : Tally.Adds change operation.amount) :
    (∃ next, ledger.update change operation.scope = some next
        ∧ Accounted (history ++ [operation]) next)
      ∨ ledger.update change operation.scope = none
        ∧ ¬ ∀ verdict, History.total (history ++ [operation]) verdict < UInt32.size := by
  cases hchange : change ledger.document with
  | some document =>
    refine .inl ⟨_, ?_, h.updated hon hopened hread hadds hchange⟩
    exact Ledger.update_eq hadds h.bounded (h.lineages.nodup _ hon.mem) hchange
  | none =>
    refine .inr ⟨Ledger.update_eq_none hchange, fun hroom => ?_⟩
    have hsome : (change ledger.document).isSome := by
      apply hadds.room
      intro verdict
      rw [h.document, ← History.total_concat]
      exact hroom verdict
    rw [hchange] at hsome
    cases hsome

/-- One operation is carried out unless the document has no room for what it reports. -/
theorem perform (h : Accounted history ledger) (hon : operation.On history.contexts) :
    (∃ answer next, ledger.perform operation = some (answer, next)
        ∧ Accounted (history ++ [operation]) next)
      ∨ ledger.perform operation = none
        ∧ ¬ ∀ verdict, History.total (history ++ [operation]) verdict < UInt32.size := by
  cases operation with
  | nest outer => exact .inl ⟨_, _, rfl, h.nest hon⟩
  | readVerdict scope => exact .inl ⟨_, _, rfl, h.close hon⟩
  | report scope verdict =>
    rcases h.update hon rfl nofun (Tally.adds_add verdict) with
      ⟨next, hnext, haccounted⟩ | ⟨hnone, hfull⟩
    · exact .inl ⟨none, next, congrArg (Option.map (none, ·)) hnext, haccounted⟩
    · exact .inr ⟨congrArg (Option.map (none, ·)) hnone, hfull⟩
  | reportAll scope tally =>
    rcases h.update hon rfl nofun (Tally.adds_merge tally) with
      ⟨next, hnext, haccounted⟩ | ⟨hnone, hfull⟩
    · exact .inl ⟨none, next, congrArg (Option.map (none, ·)) hnext, haccounted⟩
    · exact .inr ⟨congrArg (Option.map (none, ·)) hnone, hfull⟩

/-! ## Whole histories -/

/-- A verdict that was read is the one that the tally of its context still has after any further
operations. -/
theorem verdict_tallyOf (h : Accounted history ledger) {scope : Scope}
    (hscope : scope ∈ history.contexts) {rest : History} {last : Ledger}
    (hlast : Accounted (history ++ Operation.readVerdict scope :: rest) last)
    (hscope' : scope ∈ History.contexts (history ++ Operation.readVerdict scope :: rest)) :
    (ledger.readVerdict scope).1 = (last.tallyOf scope).verdict := by
  have hsame : ledger.tallyOf scope = last.tallyOf scope := by
    apply Tally.eq_of_countOf
    intro verdict
    rw [h.countOf_tallyOf hscope, hlast.countOf_tallyOf hscope', History.heard_read]
  rw [Ledger.readVerdict, hsame]

/-- Some operations are carried out unless the document has no room for what they report. The
verdicts read are those that the tallies have in the end. -/
theorem performAll {past rest : History} (h : Accounted past ledger)
    (hvalid : History.Valid (past ++ rest)) :
    (∃ answers last, ledger.performAll rest = some (answers, last) ∧ Accounted (past ++ rest) last
        ∧ ∀ scope ∈ History.contexts (past ++ rest), ∀ index : Nat,
            rest[index]? = some (.readVerdict scope) →
              answers[index]? = some (some (last.tallyOf scope).verdict))
      ∨ ledger.performAll rest = none
        ∧ ¬ ∀ verdict, History.total (past ++ rest) verdict < UInt32.size := by
  -- The past grows by the operations that are carried out.
  induction rest generalizing past ledger with
  | nil =>
    rw [List.append_nil]
    exact .inl ⟨[], ledger, rfl, h, fun _ _ _ hindex => nomatch hindex⟩
  | cons operation rest ih =>
    have hassoc : past ++ operation :: rest = past ++ [operation] ++ rest := by
      rw [List.append_assoc, List.singleton_append]
    rcases h.perform hvalid.on with ⟨answer, next, hnext, haccounted⟩ | ⟨hnone, hfull⟩
    · rcases ih haccounted (hassoc ▸ hvalid) with
        ⟨answers, last, hlast, hdone, hreads⟩ | ⟨hnone, hfull⟩
      · rw [← hassoc] at hdone hreads
        refine .inl ⟨answer :: answers, last, ?_, hdone, ?_⟩
        · simp only [Ledger.performAll, hnext, hlast, Option.bind_eq_bind, Option.bind_some,
            Option.pure_def]
        · intro scope hscope index hread
          cases index with
          | succ index => exact hreads scope hscope index hread
          | zero =>
            -- What was heard before the reading is what is heard in the end.
            cases hread
            cases hnext
            rw [List.getElem?_cons_zero, h.verdict_tallyOf hvalid.on hdone hscope]
      · rw [← hassoc] at hfull
        refine .inr ⟨?_, hfull⟩
        simp only [Ledger.performAll, hnext, hnone, Option.bind_eq_bind, Option.bind_some,
          Option.bind_none]
    · refine .inr ⟨?_, fun hroom => hfull fun verdict => ?_⟩
      · simp only [Ledger.performAll, hnone, Option.bind_eq_bind, Option.bind_none]
      · have hless := hroom verdict
        rw [hassoc, History.total_append] at hless
        omega

end Accounted

/-- **Exact tallies and steady verdicts.** A valid history is carried out exactly if no verdict is
reported `2 ^ 32` times in all. Then the document counts everything that was reported; a context
counts what was reported in it or further inwards before its first reading; and each reading of it
answers with the verdict of that tally. -/
theorem Ledger.performAll_counts (history : History) (hvalid : history.Valid) :
    ((Ledger.empty.performAll history).isSome ↔ ∀ verdict, history.total verdict < UInt32.size)
      ∧ ∀ answers ledger, Ledger.empty.performAll history = some (answers, ledger) →
          (∀ verdict, ledger.document.countOf verdict = history.total verdict)
            ∧ ∀ scope ∈ history.contexts,
                (∀ verdict, (ledger.tallyOf scope).countOf verdict
                  = (history.heard scope).total verdict)
                  ∧ ∀ index : Nat, history[index]? = some (.readVerdict scope) →
                      answers[index]? = some (some (ledger.tallyOf scope).verdict) := by
  have hvalid' : History.Valid ([] ++ history) := hvalid
  rcases accounted_empty.performAll hvalid' with
    ⟨answers, last, hlast, haccounted, hreads⟩ | ⟨hnone, hfull⟩
  · rw [hlast]
    refine ⟨iff_of_true rfl haccounted.total_lt, ?_⟩
    rintro _ _ ⟨⟩
    refine ⟨haccounted.document, fun scope hscope => ?_⟩
    exact ⟨haccounted.countOf_tallyOf hscope, hreads scope hscope⟩
  · rw [hnone]
    exact ⟨iff_of_false Bool.false_ne_true hfull, nofun⟩

/-- A call in a call, where the outer verdict is read before the inner call reports and again
later. -/
def lateReports : History :=
  [.nest [], .nest [0], .passed [1, 0], .readVerdict [0], .failed [1, 0],
    .reportAll [] ⟨0, 0, 2, 0⟩, .readVerdict [1, 0], .report [0] .error, .readVerdict [0]]

/-- The outer call keeps the one pass from before its first reading, and its second reading answers
the same verdict. The inner call and the document count on. -/
theorem Ledger.performAll_counts_lateReports :
    (Ledger.empty.performAll lateReports).map (·.1)
        = some [none, none, none, some .pass, none, none, some .fail, none, some .pass]
      ∧ ∀ answers ledger, Ledger.empty.performAll lateReports = some (answers, ledger) →
          ledger.document.countOf .error = 1
            ∧ (ledger.tallyOf [0]).countOf .pass = 1 ∧ (ledger.tallyOf [0]).countOf .fail = 0
            ∧ (ledger.tallyOf [1, 0]).countOf .fail = 1
            ∧ answers[8]? = some (some (ledger.tallyOf [0]).verdict) := by
  have hvalid : lateReports.Valid := by decide
  refine ⟨by decide, fun answers ledger h => ?_⟩
  obtain ⟨hdocument, hcontexts⟩ := (Ledger.performAll_counts lateReports hvalid).2 answers ledger h
  obtain ⟨hcounts, hreads⟩ := hcontexts [0] (by decide)
  refine ⟨hdocument .error, hcounts .pass, hcounts .fail, ?_, hreads 8 rfl⟩
  exact (hcontexts [1, 0] (by decide)).1 .fail

end ScenarioTables
