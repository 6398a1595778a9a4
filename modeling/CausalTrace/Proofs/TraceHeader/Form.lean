/-
The form of a header, read and written.

* `IsForm`, `IsHeader`: the version, a trace, a parent and flags in
  hexadecimal, separated by hyphens; neither trace nor parent all zeros;
* `parse_eq_ok_iff`: a text is read as a header exactly if it is the form of
  its bytes, blanks at the ends aside;
* `trim_chars`: what is written has no blanks to drop;
* `headers_read_and_written`: **exactly the texts of that form are read, a
  header is written as the text it was read from in lower case, and what is
  written is read again.**
-/
import CausalTrace.Proofs.Failure
import CausalTrace.Proofs.Text.Numeral
import CausalTrace.Proofs.TraceHeader.Field

namespace CausalTrace
namespace TraceHeader

variable {text : String} {header : TraceHeader} {form version trace parent flags : List Char}

/-! ### Fields -/

/-- Some fields, each with a hyphen in front but for the first. -/
def join (version trace parent flags : List Char) : List Char :=
  version ++ '-' :: trace ++ '-' :: parent ++ '-' :: flags

/-- A text that is cut into four fields joins them. -/
lemma eq_join_of_splitOn (h : form.splitOn '-' = [version, trace, parent, flags]) :
    form = join version trace parent flags := by
  have hform : ['-'].intercalate (form.splitOn '-') = form := List.intercalate_splitOn '-'
  rw [← hform, h, join]
  simp

/-- A hexadecimal field has no hyphen. -/
lemma hyphen_not_mem {size : Nat} (h : IsHexText size trace) : '-' ∉ trace :=
  fun hmem => absurd (h.digits '-' hmem) (by decide)

/-- Joined hexadecimal fields are cut apart again. -/
lemma splitOn_join {a b c d : Nat} (hversion : IsHexText a version) (htrace : IsHexText b trace)
    (hparent : IsHexText c parent) (hflags : IsHexText d flags) :
    (join version trace parent flags).splitOn '-' = [version, trace, parent, flags] := by
  rw [join, List.append_assoc, List.append_assoc, List.cons_append,
    List.splitOn_append_cons_self_of_not_mem (hyphen_not_mem hversion), List.cons_append,
    List.splitOn_append_cons_self_of_not_mem (hyphen_not_mem htrace),
    List.splitOn_append_cons_self_of_not_mem (hyphen_not_mem hparent),
    List.splitOn_eq_singleton (hyphen_not_mem hflags)]

/-- The version is zero exactly if it is written as two zeros. -/
lemma version_eq_zeros_iff :
    (∃ id : Ident 1, bytesOfHex? version = some id.bytes ∧ allZero id.bytes = true) ↔
      version = ['0', '0'] := by
  constructor
  · rintro ⟨id, hbytes, hzero⟩
    have hlength := (isHexText_of_bytesOfHex? hbytes).length_eq
    rw [id.length_eq] at hlength
    have hzeros := (allZero_iff_of_bytesOfHex? hbytes).1 hzero
    exact List.eq_replicate_iff.2 ⟨hlength, hzeros⟩
  · rintro rfl
    exact ⟨⟨[0], rfl⟩, rfl, rfl⟩

/-! ### The form of a header -/

/-- The form of a header: the version, a trace, a parent and flags, in
hexadecimal digits of either case. -/
structure IsForm (form trace parent flags : List Char) : Prop where
  form_eq : form = join ['0', '0'] trace parent flags
  hex_trace : IsHexText 32 trace
  trace_ne_zeros : ∃ c ∈ trace, c ≠ '0'
  hex_parent : IsHexText 16 parent
  parent_ne_zeros : ∃ c ∈ parent, c ≠ '0'
  hex_flags : IsHexText 2 flags

/-- A text has the form of a header. -/
def IsHeader (form : List Char) : Prop :=
  ∃ trace parent flags, IsForm form trace parent flags

/-- Not all bytes are zero exactly if some digit is another. -/
lemma allZero_eq_false_iff {bytes : List UInt8} (h : bytesOfHex? trace = some bytes) :
    ¬ allZero bytes = true ↔ ∃ c ∈ trace, c ≠ '0' := by
  rw [allZero_iff_of_bytesOfHex? h]
  simp

/-- **What is read as a header**: exactly the form of its bytes, blanks at the
ends aside. -/
lemma parse_eq_ok_iff :
    parse text = .ok header ↔ ∃ trace parent flags, IsForm (trim text.toList) trace parent flags ∧
      bytesOfHex? trace = some header.traceId.bytes ∧
      bytesOfHex? parent = some header.parentId.bytes ∧
      bytesOfHex? flags = some [header.flags] := by
  constructor
  · intro h
    rw [parse] at h
    split at h
    · rename_i version trace parent flags hfields
      simp only [bind_eq_ok_iff, refuse_eq_ok_iff, hexField_eq_ok_iff, Nat.zero_lt_succ, pure,
        Except.pure, Except.ok.injEq] at h
      obtain ⟨zero, hversion, hzero, traceId, htrace, htraceId, parentId, hparent, hparentId,
        flag, hflags, rfl⟩ := h
      obtain rfl := version_eq_zeros_iff.1 ⟨zero, hversion, by simpa using hzero⟩
      have hflag : flag.bytes = [flag.bytes.headD 0] := by
        obtain ⟨byte, hbyte⟩ := List.length_eq_one_iff.1 flag.length_eq
        rw [hbyte, List.headD_cons]
      refine ⟨trace, parent, flags, ⟨eq_join_of_splitOn hfields, ?_, ?_, ?_, ?_, ?_⟩,
        htrace, hparent, hflag ▸ hflags⟩
      · simpa [traceId.length_eq] using isHexText_of_bytesOfHex? htrace
      · exact (allZero_eq_false_iff htrace).1 htraceId
      · simpa [parentId.length_eq] using isHexText_of_bytesOfHex? hparent
      · exact (allZero_eq_false_iff hparent).1 hparentId
      · simpa [flag.length_eq] using isHexText_of_bytesOfHex? hflags
    · cases h
  · rintro ⟨trace, parent, flags, hform, htrace, hparent, hflags⟩
    have hversion : IsHexText 2 ['0', '0'] := ⟨rfl, List.all_iff_forall_prop.1 (by decide)⟩
    rw [parse, hform.form_eq,
      splitOn_join hversion hform.hex_trace hform.hex_parent hform.hex_flags]
    simp only [bind_eq_ok_iff, refuse_eq_ok_iff, hexField_eq_ok_iff, Nat.zero_lt_succ, pure,
      Except.pure, Except.ok.injEq]
    exact ⟨⟨[0], rfl⟩, rfl, by decide,
      header.traceId, htrace, (allZero_eq_false_iff htrace).2 hform.trace_ne_zeros,
      header.parentId, hparent, (allZero_eq_false_iff hparent).2 hform.parent_ne_zeros,
      ⟨[header.flags], rfl⟩, hflags, rfl⟩

/-! ### Written headers -/

/-- A header is written as the form of its bytes. -/
lemma chars_eq_join (header : TraceHeader) :
    header.chars = join ['0', '0'] (hexBytes header.traceId.bytes) (hexBytes header.parentId.bytes)
      (hexBytes [header.flags]) :=
  rfl

/-- Writing in lower case goes field by field. -/
lemma map_toLower_join (version trace parent flags : List Char) :
    (join version trace parent flags).map Char.toLower =
      join (version.map Char.toLower) (trace.map Char.toLower) (parent.map Char.toLower)
        (flags.map Char.toLower) := by
  simp only [join, List.map_append, List.map_cons]
  rfl

/-- What is written has no blanks to drop. -/
lemma trim_chars (header : TraceHeader) : trim header.chars = header.chars := by
  have hhex : ∀ bytes, ∀ c ∈ hexBytes bytes, c ∈ '-' :: hexDigits := fun bytes c hc =>
    List.mem_cons_of_mem _ ((isHexText_of_bytesOfHex? (bytesOfHex?_hexBytes bytes)).digits c hc)
  have hplain : ∀ c ∈ header.chars, c ∈ '-' :: hexDigits := by
    simp only [chars_eq_join, join, List.forall_mem_append, List.forall_mem_cons]
    exact ⟨⟨⟨⟨by decide, by decide, by simp⟩, by decide, hhex _⟩, by decide, hhex _⟩,
      by decide, hhex _⟩
  have hblank : ∀ c ∈ '-' :: hexDigits, isBlank c = false :=
    List.all_iff_forall_prop.1 (by decide)
  exact trim_eq_self_of_forall fun c hc => hblank c (hplain c hc)

/-- The bytes of an identifier are written with two digits each. -/
lemma isHexText_hexBytes {size : Nat} (id : Ident size) :
    IsHexText (2 * size) (hexBytes id.bytes) := by
  have h := isHexText_of_bytesOfHex? (bytesOfHex?_hexBytes id.bytes)
  rwa [id.length_eq] at h

/-- **Headers are read and written in one form**: a text is read as a header
exactly if, without the blanks at its ends, it is the version, a trace, a
parent and flags in hexadecimal digits, with hyphens between them and nothing
else, neither trace nor parent all zeros. The header is written as the same
text in lower case, and a written header whose identifiers are not zero is
read as itself. -/
theorem headers_read_and_written :
    (∀ text : String, (∃ header, parse text = .ok header) ↔ IsHeader (trim text.toList)) ∧
      (∀ (text : String) (header : TraceHeader), parse text = .ok header →
        header.write = String.ofList ((trim text.toList).map Char.toLower)) ∧
      ∀ header : TraceHeader, allZero header.traceId.bytes = false →
        allZero header.parentId.bytes = false → parse header.write = .ok header := by
  refine ⟨fun text => ⟨?_, ?_⟩, ?_, ?_⟩
  · rintro ⟨header, h⟩
    obtain ⟨trace, parent, flags, hform, -⟩ := parse_eq_ok_iff.1 h
    exact ⟨trace, parent, flags, hform⟩
  · rintro ⟨trace, parent, flags, hform⟩
    obtain ⟨traceId, htrace⟩ := exists_bytesOfHex? 16 hform.hex_trace
    obtain ⟨parentId, hparent⟩ := exists_bytesOfHex? 8 hform.hex_parent
    obtain ⟨flag, hflag⟩ := exists_bytesOfHex? 1 hform.hex_flags
    obtain ⟨byte, hbyte⟩ := List.length_eq_one_iff.1 flag.length_eq
    exact ⟨⟨traceId, parentId, byte⟩,
      parse_eq_ok_iff.2 ⟨trace, parent, flags, hform, htrace, hparent, hbyte ▸ hflag⟩⟩
  · intro text header h
    obtain ⟨trace, parent, flags, hform, htrace, hparent, hflags⟩ := parse_eq_ok_iff.1 h
    rw [write, chars_eq_join, hform.form_eq, map_toLower_join, hexBytes_of_bytesOfHex? htrace,
      hexBytes_of_bytesOfHex? hparent, hexBytes_of_bytesOfHex? hflags]
    rfl
  · intro header htrace hparent
    have hread := bytesOfHex?_hexBytes
    refine parse_eq_ok_iff.2 ⟨hexBytes header.traceId.bytes, hexBytes header.parentId.bytes,
      hexBytes [header.flags], ⟨?_, ?_, ?_, ?_, ?_, ?_⟩, hread _, hread _, hread _⟩
    · rw [write, String.toList_ofList, trim_chars, chars_eq_join]
    · exact isHexText_hexBytes header.traceId
    · exact (allZero_eq_false_iff (hread _)).1 (by simp [htrace])
    · exact isHexText_hexBytes header.parentId
    · exact (allZero_eq_false_iff (hread _)).1 (by simp [hparent])
    · exact isHexText_hexBytes ⟨[header.flags], rfl⟩

/-- The header of a caller. -/
def callerHeader : TraceHeader where
  traceId := .ofNat 16 0x4bf92f3c7b644bf92f3c7b644bf92f3c
  parentId := .ofNat 8 0x00f067aa0ba902b7
  flags := 1

/-- The same in upper case, with blanks at its ends. -/
def callerText : String :=
  "\u00a0 00-4BF92F3C7B644BF92F3C7B644BF92F3C-00F067AA0BA902B7-01\n"

/-- A header in upper case is written in lower case and read again. -/
theorem caller_header_read_again :
    parse callerText = .ok callerHeader ∧
      callerHeader.write = "00-4bf92f3c7b644bf92f3c7b644bf92f3c-00f067aa0ba902b7-01" ∧
      parse callerHeader.write = .ok callerHeader := by
  have hread : parse callerText = .ok callerHeader := by decide
  obtain ⟨-, hwritten, hagain⟩ := headers_read_and_written
  refine ⟨hread, ?_, hagain callerHeader (by decide) (by decide)⟩
  rw [hwritten callerText callerHeader hread]
  decide

end TraceHeader
end CausalTrace
