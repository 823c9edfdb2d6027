import LastochkaServer.Guarantees.FileRecords

/-!
# File transfer over gRPC

`LargeFileServe` and `LargeFileReceive` of `server/hdl_files.go:354-577`. A download cuts its buffer
to the bytes of the last read and drops the bytes that come with the end of file. An upload does not
pass on the content of the first message and leaves the record as started; a first message without
`auth` panics.
-/

namespace LastochkaServer.Guarantees.FileTransfer

open Lib Source FileRecords

section downloads

variable (reader : Nat → ReadStep)

/-- The size of the buffer before the call `i`, as long as the file lasts. -/
def room : Nat → Nat
  | 0 => serveBufferSize
  | i + 1 => min (room i) (reader i).most

/-- How many bytes the calls before `i` return at most. -/
def offered : Nat → Nat
  | 0 => 0
  | i + 1 => offered i + room reader (i + 1)

/-- The call `i` ends the loop for a file of `length` bytes: it fails, or it reaches the end of the
file and says so. -/
def Ends (length i : Nat) : Prop :=
  (reader i).signal = .failed ∨ (reader i).signal = .eof ∧ length ≤ offered reader (i + 1)

/-- The state of the loop before the call `i`. -/
structure Serving (content : FileBytes) (i size : Nat) (left : FileBytes) (sent : List FileBytes) :
    Prop where
  left_eq : left = content.drop (offered reader i)
  size_eq : min size left.length = min (room reader i) left.length
  sent_eq : sent.flatten = content.take (offered reader i)

variable {reader} {content left : FileBytes} {i size : Nat} {sent out : List FileBytes}

theorem Serving.start : Serving reader content 0 serveBufferSize content [] :=
  ⟨rfl, rfl, by simp [offered]⟩

section serving

variable (state : Serving reader content i size left sent)
include state

theorem Serving.read_length :
    min (min size (reader i).most) left.length = min (room reader (i + 1)) left.length := by
  have same := state.size_eq
  simp only [room]
  omega

theorem Serving.ends_iff : ((reader i).read size left).2 ≠ .more ↔ Ends reader content.length i := by
  have length := state.read_length
  have left_length : left.length = content.length - offered reader i := by
    rw [state.left_eq, List.length_drop]
  have last : min (room reader (i + 1)) left.length < left.length ↔
      ¬ content.length ≤ offered reader (i + 1) := by
    simp only [offered]
    omega
  unfold Ends ReadStep.read
  simp only [length, last]
  cases (reader i).signal <;> simp

theorem Serving.next :
    Serving reader content (i + 1) ((reader i).read size left).1.length
      (left.drop ((reader i).read size left).1.length) (sent ++ [((reader i).read size left).1]) := by
  have length := state.read_length
  have taken : ((reader i).read size left).1.length = min (room reader (i + 1)) left.length := by
    unfold ReadStep.read
    rw [List.length_take, length, Nat.min_assoc, Nat.min_self]
  have data : ((reader i).read size left).1 = left.take (room reader (i + 1)) := by
    unfold ReadStep.read
    dsimp only
    rw [length, ← List.take_eq_take_min]
  refine ⟨?_, ?_, ?_⟩
  · rw [taken, ← List.drop_eq_drop_min, state.left_eq, List.drop_drop, offered]
  · rw [List.length_drop, taken]
    omega
  · rw [data, List.flatten_append, state.sent_eq, List.flatten_singleton, state.left_eq, offered,
      List.take_add]

theorem Serving.turn (fuel : Nat) :
    (Ends reader content.length i → serveLoop reader (fun _ => false) (fuel + 1) i size left sent =
      some sent) ∧
      (¬ Ends reader content.length i →
        serveLoop reader (fun _ => false) (fuel + 1) i size left sent =
        serveLoop reader (fun _ => false) fuel (i + 1) ((reader i).read size left).1.length
          (left.drop ((reader i).read size left).1.length)
          (sent ++ [((reader i).read size left).1])) := by
  rw [← state.ends_iff, serveLoop]
  split
  · next more => simp [more]
  · next eof => simp [eof]
  · next failed => simp [failed]

/-- The loop ends at the first call that ends it, with what the calls before have returned. -/
theorem serveLoop_returns {fuel : Nat}
    (ran : serveLoop reader (fun _ => false) fuel i size left sent = some out) :
    ∃ e, i ≤ e ∧ Ends reader content.length e ∧
      (∀ j, i ≤ j → j < e → ¬ Ends reader content.length j) ∧
      out.flatten = content.take (offered reader e) := by
  induction fuel generalizing i size left sent with
  | zero => cases ran
  | succ fuel ih =>
    by_cases ends : Ends reader content.length i
    · rw [(state.turn fuel).1 ends] at ran
      cases ran
      exact ⟨i, le_rfl, ends, fun j lower upper => by omega, state.sent_eq⟩
    · rw [(state.turn fuel).2 ends] at ran
      obtain ⟨e, lower, found, first, total⟩ := ih state.next ran
      refine ⟨e, by omega, found, fun j after before => ?_, total⟩
      rcases Nat.eq_or_lt_of_le after with rfl | later
      · exact ends
      · exact first j later before

theorem serveLoop_ends {e : Nat} (ends : Ends reader content.length e) (later : i ≤ e) :
    ∃ fuel out, serveLoop reader (fun _ => false) fuel i size left sent = some out := by
  obtain ⟨d, rfl⟩ := Nat.exists_eq_add_of_le later
  clear later
  induction d generalizing i size left sent with
  | zero => exact ⟨1, sent, (state.turn 0).1 ends⟩
  | succ d ih =>
    by_cases now : Ends reader content.length i
    · exact ⟨1, sent, (state.turn 0).1 now⟩
    · obtain ⟨fuel, out, ran⟩ := ih state.next (by rwa [Nat.add_right_comm])
      exact ⟨fuel + 1, out, ((state.turn fuel).2 now).trans ran⟩

end serving

end downloads

/-- A download ends with the whole content exactly when the first call that ends the loop comes
after the last byte, where each call returns no more bytes than every call before it. -/
theorem largeFileServe_iff (env : FileEnv) (auth : Option (String × String)) (uid : Uid)
    (passed : fileRequestChecks env auth = .ok uid) (reader : Nat → ReadStep) (content : FileBytes) :
    (∃ fuel sent, largeFileServe env auth reader (fun _ => false) content fuel = .ok (some sent) ∧
      sent.flatten = content) ↔
    ∃ e, Ends reader content.length e ∧ content.length ≤ offered reader e ∧
      ∀ j < e, ¬ Ends reader content.length j := by
  have served (fuel : Nat) : largeFileServe env auth reader (fun _ => false) content fuel =
      .ok (serveLoop reader (fun _ => false) fuel 0 serveBufferSize content []) := by
    rw [largeFileServe, passed]
    rfl
  simp only [served, Except.ok.injEq]
  constructor
  · rintro ⟨fuel, sent, returned, whole⟩
    obtain ⟨e, -, ends, first, total⟩ := serveLoop_returns .start returned
    refine ⟨e, ends, ?_, fun j => first j (Nat.zero_le j)⟩
    rw [whole] at total
    have length := congrArg List.length total
    rw [List.length_take] at length
    omega
  · rintro ⟨e, ends, enough, first⟩
    obtain ⟨fuel, out, returned⟩ := serveLoop_ends .start ends (Nat.zero_le e)
    obtain ⟨e', -, ends', first', total⟩ := serveLoop_returns .start returned
    have same : e' = e := by
      rcases Nat.lt_trichotomy e' e with less | same | more
      · exact absurd ends' (first e' less)
      · exact same
      · exact absurd ends (first' e (Nat.zero_le e) more)
    rw [same, List.take_of_length_le enough] at total
    exact ⟨fuel, out, returned, total⟩

/-- The user 1 may do everything, and the disk has room for 100 bytes. -/
def healthy : FileEnv where
  authFileRequest _ _ := .user 1
  headers := some 0
  detectContentType _ := "application/octet-stream"
  getUidString := "AQAAAAAAAAA"
  createFails := false
  capacity := 100

/-- A reader that returns all there is, and then the end of file. -/
def plainReader (i : Nat) : ReadStep := ⟨serveBufferSize, if i = 0 then .more else .eof⟩

theorem plain_download :
    ∃ fuel sent, largeFileServe healthy (some ("token", "")) plainReader (fun _ => false)
      [1, 2, 3] fuel =
      .ok (some sent) ∧ sent.flatten = [1, 2, 3] := by
  refine (largeFileServe_iff healthy (some ("token", "")) 1 rfl plainReader [1, 2, 3]).mpr
    ⟨1, ?_, ?_, ?_⟩
  · exact .inr ⟨rfl, by decide⟩
  · decide
  · intro j before
    obtain rfl : j = 0 := by omega
    rintro (failed | ⟨eof, -⟩)
    · cases failed
    · cases eof

/-- A first read without bytes, after which the reader offers all there is. -/
def hesitantReader (i : Nat) : ReadStep := ⟨if i = 0 then 0 else serveBufferSize, .eof⟩

theorem empty_buffer_endless (fuel i : Nat) (sent : List FileBytes) :
    serveLoop hesitantReader (fun _ => false) fuel i 0 [1, 2, 3] sent = none := by
  induction fuel generalizing i sent with
  | zero => rfl
  | succ fuel ih =>
    exact ih (i + 1) _

/-- Bytes that come with the end of file are not sent, and after a read without bytes the loop does
not end. -/
theorem download_loses_content :
    (¬ ∃ fuel sent, largeFileServe healthy (some ("token", "")) (fun _ => ⟨serveBufferSize, .eof⟩)
      (fun _ => false) [1, 2, 3] fuel = .ok (some sent) ∧ sent.flatten = [1, 2, 3]) ∧
    ¬ ∃ fuel sent, largeFileServe healthy (some ("token", "")) hesitantReader (fun _ => false)
      [1, 2, 3] fuel = .ok (some sent) ∧ sent.flatten = [1, 2, 3] := by
  constructor
  · rintro ⟨_ | fuel, sent, returned, whole⟩
    · cases returned
    · cases returned
      cases whole
  · rintro ⟨_ | fuel, sent, returned, -⟩
    · cases returned
    · cases (empty_buffer_endless fuel 1 [[]]).symm.trans (Except.ok.inj returned)

theorem pipeRead_flatten {size : Nat} {writes rest : List FileBytes} {data : FileBytes}
    (pos : 0 < size)
    (read : pipeRead size writes = some (data, rest)) :
    writes.flatten = data ++ rest.flatten ∧ copyFuel rest < copyFuel writes := by
  cases writes with
  | nil => cases read
  | cons chunk writes =>
    unfold pipeRead at read
    unfold copyFuel
    dsimp only at read
    split_ifs at read with short
    · cases read
      simp only [List.flatten_cons, List.length_cons, List.length_append]
      exact ⟨trivial, by omega⟩
    · cases read
      refine ⟨?_, ?_⟩
      · rw [List.flatten_cons, List.flatten_cons, ← List.append_assoc, List.take_append_drop]
      · simp only [List.flatten_cons, List.length_cons, List.length_append, List.length_drop]
        omega

/-- The copy succeeds if the disk has room, and then has read all that was written to the pipe. -/
theorem copyPipe_eq (capacity : Nat) {fuel : Nat} {writes : List FileBytes} (given : FileBytes)
    (enough : copyFuel writes ≤ fuel) (fits : given.length ≤ capacity) :
    (copyPipe capacity fuel writes given).2 = decide ((given ++ writes.flatten).length ≤ capacity) ∧
      ((copyPipe capacity fuel writes given).2 →
        (copyPipe capacity fuel writes given).1 = given ++ writes.flatten) := by
  induction fuel generalizing writes given with
  | zero => exact absurd enough (by simp [copyFuel])
  | succ fuel ih =>
    unfold copyPipe
    cases read : pipeRead copyBufferSize writes with
    | none =>
      cases writes with
      | nil => simpa using fits
      | cons chunk writes =>
        unfold pipeRead at read
        dsimp only at read
        split_ifs at read
    | some step =>
      obtain ⟨data, rest⟩ := step
      obtain ⟨all, less⟩ := pipeRead_flatten (by decide) read
      dsimp only
      rw [all, ← List.append_assoc]
      split_ifs with full
      · simp only [List.length_append] at full ⊢
        simp only [false_implies, and_true, Bool.false_eq, decide_eq_false_iff_not]
        omega
      · exact ih _ (by omega) (Nat.le_of_not_lt full)

/-- The upload of the messages after the first one goes through. -/
def uploads (gen : Int64 ≃ Uid) (env : FileEnv) (table : FileTable) (stream : UploadStream) : Bool :=
  match stream.messages with
  | [] => false
  | first :: rest =>
    match fileRequestChecks env first.auth with
    | .error _ => false
    | .ok uid =>
      !stream.broken && !env.createFails &&
        (fileStartUpload gen table (uploadDef env uid first)).isOk &&
        decide ((rest.map (·.content)).flatten.length ≤ env.capacity)

/-- An upload that is answered with success has given all of the content to the media handler and is
recorded as completed, and a first message without `auth` is answered with an error. -/
def Delivered (gen : Int64 ≃ Uid) (env : FileEnv) (stream : UploadStream) (r : Received) : Prop :=
  (∀ size, r.outcome = .answered (.uploaded size) →
    r.given = (stream.messages.map (·.content)).flatten ∧
    ∃ row, r.table.lookup (decodeUid gen (parseUid env.getUidString.toList)) = some row ∧
      row.status = .uploadCompleted ∧ row.size = Int64.ofNat r.given.length) ∧
  ∀ first ∈ stream.messages.head?, first.auth = none → r.outcome = .answered .failed

section uploads

variable {gen : Int64 ≃ Uid} {env : FileEnv} {table table' : FileTable} {stream : UploadStream}
  {fdef : FileDef} {writes : List FileBytes} {given : FileBytes} {size : Nat}

theorem uploadFile_isSome (gen : Int64 ≃ Uid) (env : FileEnv) (table : FileTable) (fdef : FileDef)
    (writes : List FileBytes) :
    (uploadFile gen env table fdef writes).2.2.isSome =
      (!env.createFails && (fileStartUpload gen table fdef).isOk &&
        decide (writes.flatten.length ≤ env.capacity)) := by
  have copied := (copyPipe_eq env.capacity [] (le_refl (copyFuel writes)) (Nat.zero_le _)).1
  unfold uploadFile
  cases env.createFails with
  | true => rfl
  | false =>
    cases fileStartUpload gen table fdef with
    | error e => rfl
    | ok table =>
      dsimp only
      split_ifs with fits <;> simp_all [Except.isOk, Except.toBool]

theorem uploadFile_some
    (uploaded : uploadFile gen env table fdef writes = (table', given, some size)) :
    given = writes.flatten ∧ ∃ row, table'.lookup (fdef.key gen) = some row ∧
      row.status = fdef.status := by
  unfold uploadFile at uploaded
  split at uploaded
  · cases uploaded
  split at uploaded
  · cases uploaded
  next started =>
  simp only [Prod.mk.injEq] at uploaded
  obtain ⟨rfl, rfl, copied⟩ := uploaded
  split_ifs at copied with whole
  refine ⟨(copyPipe_eq env.capacity [] (le_refl (copyFuel writes)) (Nat.zero_le _)).2 whole, ?_⟩
  unfold fileStartUpload at started
  dsimp only at started
  split at started
  · cases started
  · cases started
    exact ⟨_, AList.lookup_insert _, rfl⟩

theorem fileRequestChecks_error {auth : Option (String × String)} {outcome : FileOutcome}
    (refused : fileRequestChecks env auth = .error outcome) :
    outcome ≠ .answered (.uploaded size) := by
  unfold fileRequestChecks at refused
  repeat' split at refused
  all_goals cases refused <;> simp

/-- A success means that the content of the first message is missing and the record is that of a
started upload. -/
theorem largeFileReceive_outcome (gen : Int64 ≃ Uid) (env : FileEnv) (table : FileTable)
    (stream : UploadStream) :
    if uploads gen env table stream then
      (∃ size, (largeFileReceive gen env table stream).outcome = .answered (.uploaded size)) ∧
      (largeFileReceive gen env table stream).given = (stream.messages.tail.map (·.content)).flatten ∧
      ∃ row, (largeFileReceive gen env table stream).table.lookup
        (decodeUid gen (parseUid env.getUidString.toList)) = some row ∧ row.status = .uploadStarted
    else ∀ size, (largeFileReceive gen env table stream).outcome ≠ .answered (.uploaded size) := by
  unfold largeFileReceive uploads
  cases stream.messages with
  | nil => simp
  | cons first rest =>
    cases checks : fileRequestChecks env first.auth with
    | error outcome =>
      simp only [checks, Bool.false_eq_true, if_false]
      exact fun size => fileRequestChecks_error checks
    | ok uid =>
      have through := uploadFile_isSome gen env table (uploadDef env uid first) (rest.map (·.content))
      simp only [checks, Bool.and_assoc] at through ⊢
      rw [← through]
      cases uploaded : uploadFile gen env table (uploadDef env uid first) (rest.map (·.content)) with
      | mk table' res =>
      obtain ⟨given, size⟩ := res
      cases stream.broken with
      | true =>
        simp only [Bool.not_true, Bool.false_and, Bool.false_eq_true, if_false, if_true]
        split <;> simp
      | false =>
        cases size with
        | none =>
          simp only [Option.isSome_none, Bool.and_false, Bool.false_eq_true, if_false]
          split <;> simp
        | some size =>
          obtain ⟨whole, row, listed, started⟩ := uploadFile_some uploaded
          exact ⟨⟨size, rfl⟩, whole, row, listed, started⟩

end uploads

/-- An upload is delivered exactly when it is not answered with success and its first message has
`auth`. -/
theorem largeFileReceive_delivered_iff (gen : Int64 ≃ Uid) (env : FileEnv) (table : FileTable)
    (stream : UploadStream) :
    Delivered gen env stream (largeFileReceive gen env table stream) ↔
      uploads gen env table stream = false ∧ ∀ first ∈ stream.messages.head?, first.auth ≠ none := by
  have outcome := largeFileReceive_outcome gen env table stream
  have panics : ∀ first ∈ stream.messages.head?, first.auth = none →
      (largeFileReceive gen env table stream).outcome = .panicked := by
    intro first head missing
    obtain ⟨rest, messages⟩ := List.head?_eq_some_iff.mp head
    simp [largeFileReceive, messages, fileRequestChecks, missing]
  constructor
  · rintro ⟨success, answered⟩
    constructor
    · by_contra through
      rw [if_pos (by simpa using through)] at outcome
      obtain ⟨⟨size, uploaded⟩, -, row, listed, started⟩ := outcome
      obtain ⟨-, row', listed', completed, -⟩ := success size uploaded
      cases listed.symm.trans listed'
      cases started.symm.trans completed
    · intro first head missing
      cases (panics first head missing).symm.trans (answered first head missing)
  · rintro ⟨refused, authorized⟩
    rw [if_neg (by simp [refused])] at outcome
    exact ⟨fun size uploaded => absurd uploaded (outcome size),
      fun first head missing => absurd missing (authorized first head)⟩

/-- Two chunks, the first one with the credentials. -/
def twoChunks : UploadStream :=
  ⟨[⟨some ("token", ""), some "text/plain", [1]⟩, ⟨none, none, [2]⟩], false⟩

/-- The first chunk is lost and the record stays that of a started upload; without `auth` the server
panics. -/
theorem upload_loses_content :
    ¬ Delivered plainCipher healthy twoChunks (largeFileReceive plainCipher healthy ∅ twoChunks) ∧
      ¬ Delivered plainCipher healthy ⟨[{}], false⟩
        (largeFileReceive plainCipher healthy ∅ ⟨[{}], false⟩) := by
  have received : largeFileReceive plainCipher healthy ∅ twoChunks = ⟨(∅ : FileTable).insert 1
      ⟨some 1, .uploadStarted, "text/plain", 0, "", ""⟩, [2], .answered (.uploaded 1)⟩ := by rfl
  refine ⟨fun delivered => ?_, fun delivered => ?_⟩
  · obtain ⟨given, -⟩ := delivered.1 1 (by rw [received])
    cases given
  · cases delivered.2 {} rfl rfl

end LastochkaServer.Guarantees.FileTransfer
