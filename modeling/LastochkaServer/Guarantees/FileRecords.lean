import LastochkaServer.Source.Files

/-!
# File records

What `FileGet` returns for a record stored by `FileStartUpload`,
`server/db/postgres/adapter.go:3414-3500`. The id is read into a variable that is not used again, so
every record comes back without its id, and the record of a file without an owner is not read at
all.
-/

namespace LastochkaServer.Guarantees.FileRecords

open Lib Source

variable {gen : Int64 ≃ Uid} {table table' : FileTable} {fd : FileDef}

/-- What is read back of a stored record: the id is lost, and a record without a user cannot be
read. -/
theorem fileGet_stored (stored : fileStartUpload gen table fd = .ok table') :
    fileGet gen table' fd.id =
      if parseUid fd.id.toList = 0 then .error .errMalformed
      else if fd.user = "" then .error .driver
      else .ok (some { fd with
        id := "", user := uidText (encodeUid gen (decodeUid gen (parseUid fd.user.toList))) }) := by
  have empty : uidText (encodeUidString gen "") = "" := by
    have nothing : parseInt64 "" = 0 := by decide
    rw [encodeUidString, nothing, encodeUid, if_pos rfl, uidText, if_pos rfl]
  unfold fileStartUpload at stored
  split_ifs at stored <;> cases stored
  all_goals
    unfold fileGet FileDef.key
    split_ifs <;> simp_all [AList.lookup_insert]

/-- The record read back is the one that was stored. -/
def RoundTrips (gen : Int64 ≃ Uid) (table : FileTable) (fd : FileDef) : Prop :=
  ∃ found, fileGet gen table fd.id = .ok (some found) ∧ found.id = fd.id ∧ found.user = fd.user ∧
    found.status = fd.status ∧ found.mimeType = fd.mimeType ∧ found.size = fd.size ∧
    found.location = fd.location

/-- No stored record is read back as it was. -/
theorem stored_never_roundTrips (gen : Int64 ≃ Uid) (table table' : FileTable) (fd : FileDef)
    (stored : fileStartUpload gen table fd = .ok table') : ¬ RoundTrips gen table' fd := by
  rintro ⟨found, read, id, -⟩
  rw [fileGet_stored stored] at read
  split_ifs at read with malformed
  cases read
  rw [← id] at malformed
  exact malformed rfl

/-- A cipher that leaves the bits as they are. -/
def plainCipher : Int64 ≃ Uid := ⟨Int64.toUInt64, UInt64.toInt64, fun _ => by simp, fun _ => by simp⟩

/-- A photo of the user 2. -/
def photo : FileDef :=
  { id := "AQAAAAAAAAA", user := "AgAAAAAAAAA", mimeType := "image/png", size := 7, location := "f" }

theorem photo_never_roundTrips :
    ∃ table, fileStartUpload plainCipher ∅ photo = .ok table ∧ ¬ RoundTrips plainCipher table photo :=
  ⟨_, rfl, stored_never_roundTrips plainCipher ∅ _ photo rfl⟩

/-- The photo comes back without its id, the same photo without a user not at all. -/
theorem photo_loses_id :
    (fileStartUpload plainCipher ∅ photo).toOption.map (fileGet plainCipher · photo.id) =
        some (.ok (some { photo with id := "" })) ∧
      (fileStartUpload plainCipher ∅ { photo with user := "" }).toOption.map
        (fileGet plainCipher · photo.id) =
        some (.error .driver) := by
  decide +kernel

end LastochkaServer.Guarantees.FileRecords
