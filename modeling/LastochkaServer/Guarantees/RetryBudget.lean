import LastochkaServer.Lib.Run
import LastochkaServer.Source.Validators
import LastochkaServer.Guarantees.SecretReset

/-!
# The limit on validation attempts

A credential that is not validated takes `MaxRetries + 1` wrong responses, however often it is
removed and requested again, as long as no other check reads it and no removal happens between the
two calls to the store of a check with a wrong response, and the second call does not fail.

The code ensures none of this, and the limit fails without it: responses that are sent at the same
time are all compared before any of them is counted.
-/

namespace LastochkaServer.Guarantees.RetryBudget

open Source Lib.Run SecretReset

variable {m : CredMethod} {table : Credentials} {index : Nat} {verdict : Verdict}
  (lc : LetterCase) (conf : CredMethod → ValidatorConfig) (user : Uid)

/-- No wrong response is waiting to be counted. -/
def Counted (s : Attempts) (method : CredMethod) : Prop :=
  ∀ entry ∈ s.inFlight, entry.1 = method → entry.2.wrong = false
  deriving Decidable

/-- Checks and removals wait until wrong responses are counted, and counting does not fail. -/
def InTurn (s : Attempts) : CredCall → Prop
  | .request .. => True
  | .remove method _ _ => Counted s method
  | .read method _ _ => Counted s method
  | .settle index fails => ∀ entry ∈ s.inFlight[index]?, entry.2.wrong → fails = false

instance (s : Attempts) : ∀ call, Decidable (InTurn s call)
  | .request .. => inferInstanceAs (Decidable True)
  | .remove .. => inferInstanceAs (Decidable (Counted _ _))
  | .read .. => inferInstanceAs (Decidable (Counted _ _))
  | .settle .. => @Option.decidableForallMem _ _ (fun _ => inferInstance) _

/-- The number of wrong responses that a credential takes. -/
def budget (method : CredMethod) : Nat := ((conf method).maxRetries + 1).toNat

/-- Wrong responses to a credential that are not counted yet. -/
def uncounted (s : Attempts) (method : CredMethod) (value : String) : Nat :=
  s.inFlight.count (method, .fail value)

/-- The wrong responses to a credential are within the budget and in its counter. -/
structure Accounted (s : Attempts) (method : CredMethod) (value : String) : Prop where
  limited : s.compared.count (method, value) ≤ budget conf method
  counted : s.compared.count (method, value) ≤ s.table.counter user method value +
    uncounted s method value
  present : s.compared.count (method, value) ≠ 0 → ∃ c ∈ s.table.rows, c.Awaits user method value

theorem Counted.uncounted {s : Attempts} {method : CredMethod} (counted : Counted s method)
    (value : String) : uncounted s method value = 0 :=
  List.count_eq_zero.mpr fun mem => absurd (counted _ mem rfl) Bool.true_eq_false.mp

variable {conf user} {s : Attempts} {method : CredMethod} {value : String}

theorem Accounted.of_none (untried : s.compared.count (method, value) = 0) :
    Accounted conf user s method value where
  limited := by omega
  counted := by omega
  present tried := absurd untried tried

section accounted

variable (accounted : Accounted conf user s method value)
include accounted

theorem Accounted.of_kept (kept : s.table.Kept table user method value) :
    Accounted conf user { s with table } method value where
  limited := accounted.limited
  counted := accounted.counted.trans (Nat.add_le_add_right kept.counter_le _)
  present some := by
    obtain ⟨c, mem, awaits⟩ := accounted.present some
    obtain ⟨d, later, still, -⟩ := kept c mem awaits
    exact ⟨d, later, still⟩

theorem accounted_request (fails : Bool) (m : CredMethod) (address resp : String)
    (code : Option String) :
    Accounted conf user
      { s with table := (CredValidator.request lc s.table fails user m address resp code).1 }
      method value := by
  apply accounted.of_kept
  unfold CredValidator.request
  split_ifs
  · exact Credentials.Kept.refl
  · split
    · exact Credentials.Kept.refl
    · rcases Credentials.credUpsert_kept (t := s.table) fails false _ with kept | ⟨done, -⟩
      · exact kept
      · exact absurd done Bool.false_ne_true

theorem accounted_remove (fails : Bool) (counted : Counted s m) (address : String) :
    Accounted conf user { s with table := (CredValidator.remove s.table fails user m address).1 }
      method value := by
  by_cases other : m = method
  · subst other
    by_cases tried : s.table.counter user m value = 0
    · have limit := accounted.counted
      rw [tried, counted.uncounted value] at limit
      exact Accounted.of_none (Nat.le_zero.mp limit)
    · exact accounted.of_kept (Credentials.credDel_kept fails (.inl (Option.some_ne_none _)) tried)
  · exact accounted.of_kept (Credentials.credDel_other fails other)

theorem accounted_judged (counted : Counted s m) (resp : String) :
    Accounted conf user
      (s.judged m (CredValidator.judge (conf m) (s.table.credGetActive user m) resp))
      method value := by
  cases verdict : CredValidator.judge (conf m) (s.table.credGetActive user m) resp with
  | refuse e => exact accounted
  | confirm address =>
    refine { accounted with counted := accounted.counted.trans ?_ }
    exact Nat.add_le_add_left List.count_le_count_cons _
  | fail address =>
    obtain ⟨c, found, rfl, few⟩ := CredValidator.judge_fail verdict
    obtain ⟨mem, awaits⟩ := Credentials.credGetActive_some found
    by_cases same : (m, c.value) = (method, value)
    · obtain ⟨rfl, rfl⟩ := Prod.mk.inj same
      have before := accounted.counted
      rw [counted.uncounted, Credentials.counter_of_mem mem awaits] at before
      have more : (s.judged m (.fail c.value)).compared.count (m, c.value) =
          s.compared.count (m, c.value) + 1 := List.count_cons_self
      have waiting : uncounted (s.judged m (.fail c.value)) m c.value = 1 := by
        rw [uncounted, Attempts.judged, List.count_cons_self]
        exact congrArg (· + 1) (counted.uncounted c.value)
      refine ⟨?_, ?_, fun _ => ⟨c, mem, awaits⟩⟩
      · rw [more, budget]
        omega
      · rw [more, waiting, show (s.judged m (.fail c.value)).table = s.table from rfl,
          Credentials.counter_of_mem mem awaits]
        omega
    · have unchanged : (s.judged m (.fail c.value)).compared.count (method, value) =
          s.compared.count (method, value) := List.count_cons_of_ne same
      refine ⟨unchanged ▸ accounted.limited, ?_, fun before => accounted.present (unchanged ▸ before)⟩
      rw [unchanged]
      exact accounted.counted.trans (Nat.add_le_add_left List.count_le_count_cons _)

omit accounted in
theorem settled_validated (validated : table.Validated user method value) (s : Attempts)
    (index : Nat) :
    (s.settled user index table).compared.count (method, value) = 0 := by
  refine List.count_eq_zero.mpr fun mem => ?_
  have open' := (List.mem_filter.mp mem).2
  simp [validated] at open'

omit accounted in
theorem uncounted_settled (table : Credentials) (taken : s.inFlight[index]? = some (m, verdict)) :
    uncounted (s.settled user index table) method value +
      (if (m, verdict) = (method, .fail value) then 1 else 0) =
      uncounted s method value := by
  obtain ⟨inside, entry⟩ := List.getElem?_eq_some_iff.mp taken
  have parts := (List.getElem_cons_eraseIdx_perm inside).count_eq (method, Verdict.fail value)
  rw [entry, List.count_cons] at parts
  simpa [uncounted, Attempts.settled] using parts

/-- A finished check leaves a credential accounted for if its row is kept and its counter makes up
for what is no longer in flight. -/
theorem Accounted.of_settled (index : Nat) (kept : s.table.Kept table user method value)
    (counts : s.compared.count (method, value) ≠ 0 →
      s.table.counter user method value + uncounted s method value ≤
        table.counter user method value + uncounted (s.settled user index table) method value) :
    Accounted conf user (s.settled user index table) method value := by
  have fewer : (s.settled user index table).compared.count (method, value) ≤
      s.compared.count (method, value) :=
    List.filter_sublist.count_le _
  by_cases untried : s.compared.count (method, value) = 0
  · exact Accounted.of_none (by omega)
  · refine ⟨fewer.trans accounted.limited, ?_, fun _ => (accounted.of_kept kept).present untried⟩
    exact fewer.trans (accounted.counted.trans (counts untried))

theorem accounted_settled (taken : s.inFlight[index]? = some (m, verdict)) {fails : Bool}
    (works : verdict.wrong → fails = false) :
    Accounted conf user (s.settled user index (CredValidator.settle s.table fails user m verdict).1)
      method value := by
  have flying :
      uncounted (s.settled user index (CredValidator.settle s.table fails user m verdict).1)
      method value +
      (if (m, verdict) = (method, .fail value) then 1 else 0) = uncounted s method value :=
    uncounted_settled _ taken
  cases verdict with
  | refuse e =>
    refine accounted.of_settled index Credentials.Kept.refl fun _ => ?_
    simp only [CredValidator.settle, Prod.mk.injEq, reduceCtorEq, and_false, if_false] at flying ⊢
    omega
  | confirm address =>
    have effect : s.table.Kept (s.table.credConfirm fails user m).1 user method value ∨
        (s.table.credConfirm fails user m).1.Validated user method value :=
          Credentials.credConfirm_kept fails
    rcases effect with kept | validated
    · refine accounted.of_settled index kept fun _ => ?_
      have more := kept.counter_le
      simp only [CredValidator.settle, Prod.mk.injEq, reduceCtorEq, and_false, if_false] at flying ⊢
      omega
    · exact Accounted.of_none (settled_validated validated s index)
  | fail address =>
    obtain rfl := works rfl
    have kept : s.table.Kept (s.table.credFail user m) user method value := Credentials.credFail_kept
    refine accounted.of_settled index kept fun compared => ?_
    simp only [CredValidator.settle, Bool.false_eq_true, if_false] at flying ⊢
    split_ifs at flying with same
    · -- The response is counted now.
      injection same with first second
      injection second with second
      subst first second
      obtain ⟨c, mem, awaits⟩ := accounted.present compared
      rw [Credentials.credFail_counter mem awaits]
      omega
    · have more := kept.counter_le
      omega

end accounted

theorem accounted_step (call : CredCall)
    (accounted : ∀ method value, Accounted conf user s method value)
    (turn : InTurn s call) (method : CredMethod) (value : String) :
    Accounted conf user (s.step lc conf user call) method value := by
  cases call with
  | request m address resp code fails =>
    exact accounted_request lc (accounted _ _) fails m address resp code
  | remove m address fails => exact accounted_remove (accounted _ _) fails turn address
  | read m resp fails =>
    rw [Attempts.step]
    split_ifs
    · exact accounted _ _
    · exact accounted_judged (accounted _ _) turn resp
  | settle index fails =>
    rw [Attempts.step]
    split
    · exact accounted _ _
    · next m verdict taken =>
      exact accounted_settled (accounted _ _) taken fun wrong => turn (m, verdict) taken wrong

/-- In every run in which checks and removals wait until wrong responses are counted, and counting
works, no credential that is not validated takes more than `MaxRetries + 1` wrong responses. -/
theorem wrong_responses_limited (lc : LetterCase) (conf : CredMethod → ValidatorConfig) (user : Uid)
    (table : Credentials) (calls : List CredCall)
    (turns : Guarded (Attempts.step lc conf user) InTurn (.begin table) calls) (method : CredMethod)
    (value : String) :
    (run (Attempts.step lc conf user) (.begin table) calls).compared.count (method, value) ≤
      ((conf method).maxRetries + 1).toNat := by
  have preserved : ∀ s call, (∀ method value, Accounted conf user s method value) → InTurn s call →
      ∀ method value, Accounted conf user (s.step lc conf user call) method value :=
    fun s call => accounted_step lc call
  have start : ∀ method value, Accounted conf user (.begin table) method value :=
    fun _ _ => Accounted.of_none rfl
  exact (run_invariant preserved start turns method value).limited

/-- Configuration by default, without a dummy response. -/
def byDefault : CredMethod → ValidatorConfig := fun _ => ⟨3, ""⟩

def requestCode : CredCall := .request .tel "+15550001" "" (some "1234") false

def wrongResponse : CredCall := .read .tel "0000" false

def finish : CredCall := .settle 0 false

/-- Four wrong responses in turn, with the credential removed and requested again in the middle. -/
def inTurn : List CredCall :=
  [requestCode, wrongResponse, finish, wrongResponse, finish, .remove .tel "+15550001" false,
    requestCode, wrongResponse, finish, wrongResponse, finish]

/-- The four responses are compared, and the next one is refused. -/
theorem four_wrong_responses :
    Guarded (Attempts.step asciiCase byDefault 1) InTurn (.begin .empty) (inTurn ++ [wrongResponse]) ∧
      (run (Attempts.step asciiCase byDefault 1) (.begin .empty) inTurn).compared.count
      (.tel, "+15550001") = 4 ∧
      (run (Attempts.step asciiCase byDefault 1) (.begin .empty)
        (inTurn ++ [wrongResponse])).compared.count
        (.tel, "+15550001") ≤ ((byDefault .tel).maxRetries + 1).toNat :=
  ⟨by decide, by decide, wrong_responses_limited asciiCase byDefault 1 .empty
    (inTurn ++ [wrongResponse]) (by decide) .tel "+15550001"⟩

/-- Five responses are compared when they are all read before the first one is counted, and when the
credential is removed before each of them is counted. -/
theorem five_wrong_responses :
    (run (Attempts.step asciiCase byDefault 1) (.begin .empty)
      [requestCode, wrongResponse, wrongResponse, wrongResponse, wrongResponse, wrongResponse,
        finish, finish, finish, finish, finish]).compared.count (.tel, "+15550001") = 5 ∧
    (run (Attempts.step asciiCase byDefault 1) (.begin .empty)
      [requestCode, wrongResponse, .remove .tel "+15550001" false, finish,
        requestCode, wrongResponse, .remove .tel "+15550001" false, finish,
        requestCode, wrongResponse, .remove .tel "+15550001" false, finish,
        requestCode, wrongResponse, .remove .tel "+15550001" false, finish,
        requestCode, wrongResponse]).compared.count (.tel, "+15550001") = 5 ∧
    ((byDefault .tel).maxRetries + 1).toNat = 4 :=
  ⟨by decide, by decide, rfl⟩

end LastochkaServer.Guarantees.RetryBudget
