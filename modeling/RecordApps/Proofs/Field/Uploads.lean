import RecordApps.Proofs.Decimal.Comparison
import RecordApps.Proofs.Field.Initial
import RecordApps.Proofs.Service
import RecordApps.Proofs.Value.Reading

/-! # Limits on uploads

A field of files says how many there may be, and how large each of them. How large a file is stands
under a key of its own, and is held against the limit if it is a whole number. Whether it is one is
a matter of spelling: digits alone are, if there are not too many. A size with a point or a power of
ten in it is never too large.
-/

namespace RecordApps

open Stored Decimal

namespace Value

/-- The number that a value is, exactly. -/
def number? : Value → Option ℚ
  | .int n => some n
  | .float x => if x.isFinite then some (Binary.value x.toModel.unpack) else none
  | _ => none

/-- Whether a value is a whole number, and spelled as one. -/
def isWhole : Value → Bool
  | .int _ => true
  | _ => false

/-- Whether a value is a number that is not spelled as a whole one. -/
def isFloat : Value → Bool
  | .float _ => true
  | _ => false

/-- The size that is told of a file is within a limit, if it is a number of a kind that counts. -/
def SizeWithin (counts : Value → Bool) (maxBytes : ℕ) (file : List (String × Value)) : Prop :=
  ∀ size ∈ file.lookup "size", counts size = true → ∀ bytes ∈ size.number?, bytes ≤ maxBytes

/-- Files of limited number, each of them of limited size. -/
def Uploads (counts : Value → Bool) (maxBytes maxFiles : ℕ) (v : Value) : Prop :=
  ∃ files, v = .list files ∧ files.length ≤ maxFiles ∧
    ∀ file ∈ files, ∃ entries, file = .object entries ∧ SizeWithin counts maxBytes entries

theorem number?_ofNat {n : ℕ} (h : n < 2 ^ 53) :
    (Value.float (Float.ofNat n)).number? = some (n : ℚ) := by
  obtain ⟨f, hheld, hfloat, hvalue⟩ := Binary.exists_held_ofNat h
  rw [hfloat, number?, if_pos (Binary.isFinite_toFloat hheld), Binary.unpack_toFloat hheld, hvalue]

variable {v : Value} {maxBytes maxFiles : ℕ} {entries : List (String × Value)}

theorem sizeWithin_isNumber_iff : SizeWithin isNumber maxBytes entries ↔
    SizeWithin isWhole maxBytes entries ∧ SizeWithin isFloat maxBytes entries := by
  constructor
  · intro h
    refine ⟨fun size hsize hwhole => h size hsize ?_, fun size hsize hfloat => h size hsize ?_⟩
    · cases size <;> first | rfl | cases hwhole
    · cases size <;> first | rfl | cases hfloat
  · rintro ⟨hwhole, hfloat⟩ size hsize hnumber
    cases size with
    | int n => exact hwhole _ hsize rfl
    | float x => exact hfloat _ hsize rfl
    | null | bool | text | list | object => cases hnumber

theorem Uploads.imp {counts counts' : Value → Bool} (h : v.Uploads counts maxBytes maxFiles)
    (himp : ∀ file, SizeWithin counts maxBytes file → SizeWithin counts' maxBytes file) :
    v.Uploads counts' maxBytes maxFiles := by
  obtain ⟨files, rfl, hlength, hfiles⟩ := h
  refine ⟨files, rfl, hlength, fun file hfile => ?_⟩
  obtain ⟨entries, rfl, hsize⟩ := hfiles file hfile
  exact ⟨entries, rfl, himp entries hsize⟩

theorem uploads_isNumber_iff : v.Uploads isNumber maxBytes maxFiles ↔
    v.Uploads isWhole maxBytes maxFiles ∧ v.Uploads isFloat maxBytes maxFiles := by
  constructor
  · intro h
    exact ⟨h.imp fun _ hsize => (sizeWithin_isNumber_iff.1 hsize).1,
      h.imp fun _ hsize => (sizeWithin_isNumber_iff.1 hsize).2⟩
  · rintro ⟨⟨files, rfl, hlength, hwhole⟩, ⟨_, ⟨⟩, -, hfloat⟩⟩
    refine ⟨files, rfl, hlength, fun file hfile => ?_⟩
    obtain ⟨entries, rfl, hwhole⟩ := hwhole file hfile
    obtain ⟨_, ⟨⟩, hfloat⟩ := hfloat _ hfile
    exact ⟨entries, rfl, sizeWithin_isNumber_iff.2 ⟨hwhole, hfloat⟩⟩

theorem fileSize_le_iff : fileSize entries ≤ maxBytes ↔ SizeWithin isWhole maxBytes entries := by
  rw [fileSize, SizeWithin]
  cases entries.lookup "size" with
  | none => simp
  | some size =>
      cases size with
      | int n =>
          cases n with
          | ofNat n => simp [nat?, isWhole, number?]
          | negSucc n =>
              have hnegative : ((Int.negSucc n : ℤ) : ℚ) ≤ maxBytes :=
                le_trans (by exact_mod_cast (Int.negSucc_lt_zero n).le) (Nat.cast_nonneg maxBytes)
              simpa [nat?, isWhole, number?] using hnegative
      | null | bool | float | text | list | object => simp [nat?, isWhole]

end Value

namespace FieldType

variable {code : String} {t : FieldType} {maxMegabytes maxFiles : ℕ}

/-- The check of a file. -/
def checkFile (code : String) (t : FieldType) (maxMegabytes : ℕ) : Value → Outcome Unit
  | .object entries =>
      ensure (Value.fileSize entries ≤ maxMegabytes * 1024 * 1024) (.fileTooLarge code maxMegabytes)
  | _ => .error (.invalid (.typeMismatch code t.name))

theorem checkFile_eq_ok {file : Value} : checkFile code t maxMegabytes file = .ok () ↔
    ∃ entries, file = .object entries ∧
      Value.SizeWithin Value.isWhole (maxMegabytes * 1024 * 1024) entries := by
  cases file with
  | object entries =>
      rw [checkFile, ensure_eq_ok, decide_eq_true_eq, Value.fileSize_le_iff]
      simp only [Value.object.injEq, exists_eq_left']
  | null | bool | int | float | text | list => simp [checkFile]

theorem checkFiles_list (files : List Value) :
    t.checkFiles code maxMegabytes maxFiles (.list files) =
      (ensure (files.length ≤ maxFiles) (.tooManyFiles code maxFiles) >>= fun _ =>
        forM files (checkFile code t maxMegabytes)) := by
  have hfile : checkFile code t maxMegabytes = fun file =>
      match file with
      | .object entries =>
          ensure (Value.fileSize entries ≤ maxMegabytes * 1024 * 1024)
            (.fileTooLarge code maxMegabytes)
      | _ => .error (.invalid (.typeMismatch code t.name)) := by
    funext file
    cases file <;> rfl
  rw [hfile]
  rfl

theorem checkFiles_eq_ok {v : Value} : t.checkFiles code maxMegabytes maxFiles v = .ok () ↔
    v.Uploads Value.isWhole (maxMegabytes * 1024 * 1024) maxFiles := by
  cases v with
  | list files =>
      rw [checkFiles_list, Outcome.check_bind_eq_ok, ensure_eq_ok, decide_eq_true_eq,
        Outcome.forM_eq_ok]
      simp only [checkFile_eq_ok, Value.Uploads, Value.list.injEq, exists_eq_left']
  | null | bool | int | float | text | object => simp [checkFiles, itemsOf, Value.Uploads]

end FieldType

namespace FieldDefinition

variable {f : FieldDefinition} {maxMegabytes maxFiles : ℕ} {v : Value}

theorem checkValue_fileUpload (htype : f.type = .fileUpload maxMegabytes maxFiles) :
    f.checkValue v = .ok () ↔
      v = .null ∨ v.Uploads Value.isWhole (maxMegabytes * 1024 * 1024) maxFiles := by
  have hnull : v.isNull = true ↔ v = .null := by cases v <;> simp [Value.isNull]
  rw [checkValue_eq, htype, FieldType.checkValue]
  split
  case isTrue h => simp [hnull.1 h]
  case isFalse h => rw [FieldType.checkFiles_eq_ok, or_iff_right (mt hnull.2 h)]

theorem limits_of_valid (htype : f.type = .fileUpload maxMegabytes maxFiles)
    (hvalid : f.validate = .ok ()) :
    (1 ≤ maxMegabytes ∧ maxMegabytes ≤ 50) ∧ 1 ≤ maxFiles ∧ maxFiles ≤ 20 := by
  simp only [validate, Outcome.check_bind_eq_ok] at hvalid
  obtain ⟨-, hlimits, -⟩ := hvalid
  rw [htype, FieldType.validate, Outcome.check_bind_eq_ok, ensure_eq_ok, ensure_eq_ok] at hlimits
  simp only [Bool.and_eq_true, decide_eq_true_eq] at hlimits
  exact hlimits

end FieldDefinition

/-! ## Spellings of a size -/

namespace Value

variable {t : NumberText} {v : Value} {maxBytes : ℕ}

theorem sizeWithin_int {n : ℤ} :
    SizeWithin isWhole maxBytes [("size", .int n)] ↔ (n : ℚ) ≤ maxBytes := by
  simp [SizeWithin, isWhole, number?]

theorem sizeWithin_float (x : Float) : SizeWithin isWhole maxBytes [("size", .float x)] := by
  simp [SizeWithin, isWhole]

/-- A size is held against the limit if it is spelled by digits alone, and not by too many. -/
theorem sizeWithin_spelled
    (h : numberValue? t.negative t.whole t.fraction t.exponent = some v) :
    SizeWithin isWhole maxBytes [("size", v)] ↔
      (t.DigitsAlone → ofDigits t.whole < 2 ^ 64 → ofDigits t.whole ≤ maxBytes) := by
  obtain ⟨rfl, halone, hfits⟩ | ⟨rfl, hnot⟩ | ⟨x, rfl, hlarge⟩ := numberValue?_cases h
  · have hcast : ((ofDigits t.whole : ℤ) : ℚ) ≤ maxBytes ↔ ofDigits t.whole ≤ maxBytes := by
      exact_mod_cast Iff.rfl
    simp only [sizeWithin_int, hcast, halone, hfits, true_imp_iff]
  · have hnegative : ((-ofDigits t.whole : ℤ) : ℚ) ≤ maxBytes := by
      push_cast
      exact (neg_nonpos.2 (Nat.cast_nonneg _)).trans (Nat.cast_nonneg _)
    simp only [sizeWithin_int, hnegative, hnot, false_imp_iff]
  · refine iff_of_true (sizeWithin_float x) fun halone hfits => ?_
    exact absurd hfits (not_lt.2 (hlarge halone))

/-- One file of which only the size is told. -/
def upload (size : Value) : Value :=
  .list [.object [("size", size)]]

/-- The text of a file of which only the size is told. -/
def fileText (size : List Char) : List Char :=
  '\x7b' :: (quoted "size" ++ ':' :: size) ++ ['\x7d']

/-- The text of one such file. -/
def uploadText (size : List Char) : String :=
  String.ofList ('[' :: fileText size ++ [']'])

theorem value?_fileText {cs : List Char} (h : NumberOf cs v) (depth : ℕ) (rest : List Char) :
    value? (depth + 1) (fileText cs ++ rest) = some (.object [("size", v)], rest) := by
  have hentry (rest : List Char) (hrest : Delimited rest) :
      pair? (fun _ => value? depth) (quoted "size" ++ ':' :: cs ++ rest) =
        some (("size", v), rest) := by
    rw [List.append_assoc, List.cons_append]
    exact pair?_quoted ((opens_numberOf h).append rest) (value?_numberOf h depth hrest)
  have hentries : closed? (pair? fun _ => value? depth) '\x7d'
      (quoted "size" ++ ':' :: cs ++ ['\x7d'] ++ rest) = some ([("size", v)], rest) :=
    closed?_one (by decide) ((opens_quoted "size").append _) hentry rest
  rw [fileText, List.cons_append, List.cons_append, value?, hentries, Option.map_some]

theorem value?_upload {cs : List Char} (h : NumberOf cs v) (depth : ℕ) :
    value? (depth + 2) ('[' :: fileText cs ++ [']']) = some (upload v, []) := by
  have hfiles : closed? (value? (depth + 1)) ']' (fileText cs ++ [']'] ++ []) =
      some ([.object [("size", v)]], []) :=
    closed?_one (by decide) ⟨'\x7b', _, rfl, by decide⟩ (fun rest _ => value?_fileText h depth rest) []
  rw [List.append_nil] at hfiles
  rw [List.cons_append, value?, hfiles]
  rfl

theorem ofText?_upload (hwell : t.WellFormed)
    (h : numberValue? t.negative t.whole t.fraction t.exponent = some v) :
    ofText? (uploadText t.chars) = some (upload v) := by
  have honly : only? (value? maxNesting) (uploadText t.chars) = some (upload v) := by
    have hread : value? maxNesting ('[' :: fileText t.chars ++ [']']) = some (upload v, []) :=
      value?_upload ⟨t, rfl, hwell, h⟩ 125
    have htext : (uploadText t.chars).toList = '[' :: fileText t.chars ++ [']'] :=
      String.toList_ofList
    rw [only?, htext, List.cons_append, skipSpace_cons (by decide), ← List.cons_append]
    simp only [hread, Option.bind_eq_bind, Option.bind_some]
    rfl
  have hnormal : (upload v).normalize = upload v := by
    obtain ⟨rfl, -⟩ | ⟨rfl, -⟩ | ⟨x, rfl, -⟩ := numberValue?_cases h <;> rfl
  rw [ofText?, honly, Option.map_some, hnormal]

theorem upload_uploads_iff {maxFiles : ℕ} (hfiles : 1 ≤ maxFiles) :
    (upload v).Uploads isWhole maxBytes maxFiles ↔ SizeWithin isWhole maxBytes [("size", v)] := by
  simp [upload, Uploads, hfiles]

end Value

/-- Uploads are limited as far as their sizes are whole numbers. A valid field of files has limits
    that are within those of all fields. It takes null and lists of objects, no more of them than its
    limit, of which none has a whole number for its size that is beyond the limit; and it takes
    nothing else. So the limits hold of sizes of either kind exactly for the values that it takes and
    whose floats are within them too. Which kind a size is of, is a matter of spelling: of all the
    numbers that a size can be written as in a text, only digits alone make a field refuse the file,
    and only if they are below 2^64 and beyond the limit. -/
theorem whole_sizes_limited {f : FieldDefinition} {maxMegabytes maxFiles : ℕ}
    (htype : f.type = .fileUpload maxMegabytes maxFiles) (hvalid : f.validate = .ok ()) :
    ((1 ≤ maxMegabytes ∧ maxMegabytes ≤ 50) ∧ 1 ≤ maxFiles ∧ maxFiles ≤ 20) ∧
    (∀ v, f.checkValue v = .ok () ↔
      v = .null ∨ v.Uploads Value.isWhole (maxMegabytes * 1024 * 1024) maxFiles) ∧
    (∀ v, v = .null ∨ v.Uploads Value.isNumber (maxMegabytes * 1024 * 1024) maxFiles ↔
      f.checkValue v = .ok () ∧
        (v = .null ∨ v.Uploads Value.isFloat (maxMegabytes * 1024 * 1024) maxFiles)) ∧
    ∀ (t : NumberText) (v : Value), t.WellFormed →
      numberValue? t.negative t.whole t.fraction t.exponent = some v →
      Value.ofText? (Value.uploadText t.chars) = some (Value.upload v) ∧
      (f.checkValue (Value.upload v) = .ok () ↔
        (t.DigitsAlone → ofDigits t.whole < 2 ^ 64 →
          ofDigits t.whole ≤ maxMegabytes * 1024 * 1024)) := by
  have hlimits := FieldDefinition.limits_of_valid htype hvalid
  refine ⟨hlimits, fun v => FieldDefinition.checkValue_fileUpload htype, fun v => ?_, ?_⟩
  · rw [FieldDefinition.checkValue_fileUpload htype, Value.uploads_isNumber_iff, or_and_left]
  · intro t v hwell hv
    refine ⟨Value.ofText?_upload hwell hv, ?_⟩
    rw [FieldDefinition.checkValue_fileUpload htype, or_iff_right nofun,
      Value.upload_uploads_iff hlimits.2.1, Value.sizeWithin_spelled hv]

namespace Stored

/-- A whole number, with or without a fraction behind it. -/
def NumberText.plain (n : ℕ) (fraction : List Char) : NumberText :=
  ⟨false, Nat.toDigits 10 n, fraction, none⟩

theorem NumberText.plain_wellFormed (n : ℕ) {fraction : List Char} (h : Digits fraction) :
    (plain n fraction).WellFormed :=
  ⟨leading_toDigits n, h, nofun⟩

end Stored

namespace Orders

/-- A file of at most a megabyte. -/
def attachments : FieldDefinition :=
  { line ⟨"attachments", by decide⟩ with type := .fileUpload 1 1 }

theorem attachments_valid : attachments.validate = .ok () := by
  with_unfolding_all rfl

theorem millions_spelled :
    numberValue? false (Nat.toDigits 10 2000000) ['0'] none = some (.float 2000000.0) := by
  have hgathered : (Literal.mk (Nat.toDigits 10 2000000) ['0'] 0).gathered =
      ⟨20000000, .negSucc 0⟩ := by
    decide +kernel
  have hscaled : scaled ⟨20000000, .negSucc 0⟩ = 2000000.0 := by
    rw [scaled]
    dsimp only
    rw [shrunk, if_pos (by decide)]
    exact Float.toBits_inj.1 (by decide +kernel)
  rw [numberValue?, if_neg (by decide), Option.getD_none, hgathered, hscaled]
  exact if_pos (by decide +kernel)

theorem beyond_spelled :
    numberValue? false (Nat.toDigits 10 (2 ^ 64)) [] none =
      some (.float (Float.ofNat (2 ^ 64))) := by
  have hgathered : (Literal.mk (Nat.toDigits 10 (2 ^ 64)) [] 0).gathered =
      ⟨1844674407370955161, .ofNat 1⟩ := by
    decide +kernel
  have hscaled : scaled ⟨1844674407370955161, .ofNat 1⟩ = Float.ofNat (2 ^ 64) :=
    Float.toBits_inj.1 (by decide +kernel)
  rw [numberValue?, ofDigits_toDigits, if_neg (by decide), Option.getD_none, hgathered, hscaled]
  exact if_pos (by decide +kernel)

end Orders

/-- Two million bytes are more than a megabyte, and refused. They are taken with a fraction, and
    more of them than fit into a machine are taken too. -/
theorem large_upload_taken :
    Orders.attachments.validate = .ok () ∧
    Orders.attachments.checkValue (.upload (.int 2000000)) =
      .error (.invalid (.fileTooLarge "attachments" 1)) ∧
    Value.ofText? "[\x7b\"size\":2000000.0\x7d]" = some (.upload (.float 2000000.0)) ∧
    Orders.attachments.checkValue (.upload (.float 2000000.0)) = .ok () ∧
    Value.number? (.float 2000000.0) = some 2000000 ∧
    ¬(Value.upload (.float 2000000.0) = .null ∨
      (Value.upload (.float 2000000.0)).Uploads Value.isNumber (1 * 1024 * 1024) 1) ∧
    Value.ofText? "[\x7b\"size\":18446744073709551616\x7d]" =
      some (.upload (.float (Float.ofNat (2 ^ 64)))) ∧
    Orders.attachments.checkValue (.upload (.float (Float.ofNat (2 ^ 64)))) = .ok () := by
  have hnumber : Value.number? (.float 2000000.0) = some 2000000 := by
    have hsame : (2000000.0 : Float) = Float.ofNat 2000000 := by decide +kernel
    rw [hsame]
    exact Value.number?_ofNat (by decide)
  refine ⟨Orders.attachments_valid, by with_unfolding_all rfl, ?_, by with_unfolding_all rfl,
    hnumber, ?_, ?_, by with_unfolding_all rfl⟩
  · have htext : Value.uploadText (NumberText.plain 2000000 ['0']).chars =
        "[\x7b\"size\":2000000.0\x7d]" := by
      decide +kernel
    rw [← htext]
    exact Value.ofText?_upload (NumberText.plain_wellFormed 2000000 (digits_zeros 1))
      Orders.millions_spelled
  · rintro (hnull | ⟨files, hfiles, -, hsizes⟩)
    · cases hnull
    obtain rfl := Value.list.inj hfiles
    obtain ⟨entries, hentries, hsize⟩ := hsizes _ (List.mem_singleton_self _)
    obtain rfl := Value.object.inj hentries
    have hlarge : (2000000 : ℚ) ≤ (1 * 1024 * 1024 : ℕ) := hsize _ rfl rfl _ hnumber
    norm_num at hlarge
  · have htext : Value.uploadText (NumberText.plain (2 ^ 64) []).chars =
        "[\x7b\"size\":18446744073709551616\x7d]" := by
      decide +kernel
    rw [← htext]
    exact Value.ofText?_upload (NumberText.plain_wellFormed (2 ^ 64) nofun) Orders.beyond_spelled

/-- The field of attachments takes a file of two million bytes as it is spelled with a fraction. -/
theorem whole_sizes_limited_attachments :
    Orders.attachments.type = .fileUpload 1 1 ∧
    Orders.attachments.validate = .ok () ∧
    Orders.attachments.checkValue (.upload (.int 1048576)) = .ok () ∧
    Value.ofText? (Value.uploadText (NumberText.plain 2000000 ['0']).chars) =
      some (.upload (.float 2000000.0)) ∧
    Orders.attachments.checkValue (.upload (.float 2000000.0)) = .ok () := by
  obtain ⟨⟨-, hsome, -⟩, htaken, -, hspelled⟩ :=
    whole_sizes_limited (f := Orders.attachments) rfl Orders.attachments_valid
  obtain ⟨hread, hsize⟩ := hspelled (NumberText.plain 2000000 ['0']) _
    (NumberText.plain_wellFormed 2000000 (digits_zeros 1)) Orders.millions_spelled
  refine ⟨rfl, Orders.attachments_valid, (htaken _).2 (.inr ?_), hread, hsize.2 fun halone => ?_⟩
  · rw [Value.upload_uploads_iff hsome, Value.sizeWithin_int]
    norm_num
  · cases halone.2.1

end RecordApps
