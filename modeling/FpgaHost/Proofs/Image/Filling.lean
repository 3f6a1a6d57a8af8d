import FpgaHost.Image.Filling
import FpgaHost.Proofs.Image.Assembly

/-!
# Filling an image comes to its concatenation

A buffer that is filled in place ends up as the concatenation that the image is, and on the way no
write leaves its field, its record or the buffer (`ImageSpec.fill?_eq`). What carries the argument
is the shape of the buffer at any time: bytes that are done, zero bytes for what is still to come,
and bytes that are not touched.

* In a record, fields are put down in order (`InOrder`); the bytes between them and behind them stay
  zero, so the record becomes `recordBytes`, which is the record that the specification writes.
* In the image, directory and payloads grow at the same time, so there are two runs of zero bytes
  (`ImageSpec.fillSections?_zeros`), and the offsets of the first pass are where the payloads of the
  concatenation come to stand (`ImageSpec.offsets_eq`).
-/

namespace FpgaHost

/-! ### Runs of zero bytes -/

theorem Octets.zeros_append (a b : Nat) : zeros a ++ zeros b = zeros (a + b) := by
  rw [zeros, zeros, zeros, List.replicate_append_replicate]

@[simp] theorem Octets.zeros_zero : zeros 0 = [] := rfl

/-! ### One record -/

/-- What a field holds once it was put down over zero bytes. -/
def FieldWrite.padded (w : FieldWrite) : Octets :=
  w.content ++ Octets.zeros (w.width - w.content.length)

/-- Fields of a record that stand one behind the other, from an offset on, in a record that takes
`extent` bytes. -/
def InOrder (start extent : Nat) : List FieldWrite → Prop
  | [] => start ≤ extent
  | w :: rest =>
    start ≤ w.field ∧ w.content.length ≤ w.width ∧ InOrder (w.field + w.width) extent rest

/-- What a record holds from an offset on, with zero bytes between its fields and behind them. -/
def recordBytes (start extent : Nat) : List FieldWrite → Octets
  | [] => Octets.zeros (extent - start)
  | w :: rest =>
    Octets.zeros (w.field - start) ++ w.padded ++ recordBytes (w.field + w.width) extent rest

theorem FieldWrite.length_padded {w : FieldWrite} (fits : w.content.length ≤ w.width) :
    w.padded.length = w.width := by
  rw [padded, List.length_append, Octets.length_zeros]
  omega

theorem InOrder.le {start extent : Nat} {ws : List FieldWrite} (order : InOrder start extent ws) :
    start ≤ extent := by
  induction ws generalizing start with
  | nil => exact order
  | cons w rest ih =>
    obtain ⟨before, -, later⟩ := order
    have within := ih later
    omega

/-- What stands in the middle of a buffer is replaced by as many bytes. -/
theorem overwrite_middle {front old new back : Octets} (size : new.length = old.length) :
    (Bytes.ofList (front ++ old ++ back)).overwrite front.length (.ofList new) =
      .ofList (front ++ new ++ back) := by
  have before : (front ++ old ++ back).take front.length = front := by
    rw [List.append_assoc, List.take_left]
  have behind : (front ++ old ++ back).drop (front.length + new.length) = back := by
    rw [size, ← List.length_append, List.drop_left]
  refine Bytes.ext_toList ?_
  rw [Bytes.toList_overwrite, Bytes.toList_ofList, Bytes.toList_ofList, Bytes.toList_ofList,
    Bytes.size_ofList, Bytes.size_ofList, before, behind, List.take_of_length_le]
  simp only [List.length_append]
  omega

/-- A field is put down over zero bytes, and the bytes that it does not need stay zero. -/
theorem putField?_zeros {front done back : Octets} {extent rest : Nat} {w : FieldWrite}
    (fits : w.content.length ≤ w.width) (reached : done.length = w.field)
    (whole : w.field + w.width + rest = extent) :
    putField? front.length extent
        (.ofList (front ++ done ++ Octets.zeros (w.width + rest) ++ back)) w =
      some (.ofList (front ++ (done ++ w.padded) ++ Octets.zeros rest ++ back)) := by
  have inside : front.length + extent ≤
      (Bytes.ofList (front ++ done ++ Octets.zeros (w.width + rest) ++ back)).size := by
    simp only [Bytes.size_ofList, List.length_append, Octets.length_zeros]
    omega
  have split : Octets.zeros (w.width + rest) = Octets.zeros w.content.length ++
      Octets.zeros (w.width - w.content.length + rest) := by
    rw [Octets.zeros_append]
    congr 1
    omega
  have place : front.length + w.field = (front ++ done).length := by
    rw [List.length_append, reached]
  rw [putField?, if_pos ⟨fits, by omega, inside⟩, place, split, ← List.append_assoc,
    List.append_assoc (front ++ done ++ _), overwrite_middle (Octets.length_zeros _).symm,
    FieldWrite.padded, ← Octets.zeros_append]
  simp only [List.append_assoc]

/-- Fields in order are put down over zero bytes; what is in front of them and behind the record
stays as it is. -/
theorem putRecord?_from {front done back : Octets} {start extent : Nat} {ws : List FieldWrite}
    (order : InOrder start extent ws) (reached : done.length = start) :
    putRecord? front.length extent ws
        (.ofList (front ++ done ++ Octets.zeros (extent - start) ++ back)) =
      some (.ofList (front ++ done ++ recordBytes start extent ws ++ back)) := by
  induction ws generalizing start done with
  | nil => rfl
  | cons w rest ih =>
    obtain ⟨before, fits, later⟩ := order
    have within := later.le
    have whole : w.field + w.width + (extent - (w.field + w.width)) = extent := by omega
    -- the zero bytes up to the field count as done
    have gap : (done ++ Octets.zeros (w.field - start)).length = w.field := by
      rw [List.length_append, Octets.length_zeros]
      omega
    have next : (done ++ Octets.zeros (w.field - start) ++ w.padded).length =
        w.field + w.width := by
      rw [List.length_append, gap, FieldWrite.length_padded fits]
    have split : Octets.zeros (extent - start) = Octets.zeros (w.field - start) ++
        Octets.zeros (w.width + (extent - (w.field + w.width))) := by
      rw [Octets.zeros_append]
      congr 1
      omega
    have shape : front ++ done ++ Octets.zeros (extent - start) ++ back =
        front ++ (done ++ Octets.zeros (w.field - start)) ++
          Octets.zeros (w.width + (extent - (w.field + w.width))) ++ back := by
      rw [split]
      simp only [List.append_assoc]
    rw [putRecord?, List.foldlM_cons, shape, putField?_zeros fits gap whole]
    refine (ih later next).trans ?_
    rw [recordBytes]
    simp only [List.append_assoc]

/-- A record is filled from zero bytes. -/
theorem putRecord?_zeros {front back : Octets} {extent : Nat} {ws : List FieldWrite}
    (order : InOrder 0 extent ws) :
    putRecord? front.length extent ws (.ofList (front ++ Octets.zeros extent ++ back)) =
      some (.ofList (front ++ recordBytes 0 extent ws ++ back)) := by
  have filled : putRecord? front.length extent ws
      (.ofList (front ++ [] ++ Octets.zeros (extent - 0) ++ back)) = some _ :=
    putRecord?_from order rfl
  simpa using filled

/-- A buffer that is one record is filled from zero bytes. -/
theorem putRecord?_whole {extent : Nat} {ws : List FieldWrite} (order : InOrder 0 extent ws) :
    putRecord? 0 extent ws (.zeros extent) = some (.ofList (recordBytes 0 extent ws)) := by
  have zeros : Bytes.zeros extent = .ofList ([] ++ Octets.zeros extent ++ []) :=
    Bytes.ext_toList (by simp)
  have filled : putRecord? ([] : Octets).length extent ws
      (.ofList ([] ++ Octets.zeros extent ++ [])) = some _ := putRecord?_zeros order
  rw [zeros, ← List.length_nil, filled]
  simp

/-! ### The records of an image -/

/-- A text is cut to less than its field. -/
theorem FieldWrite.length_text_le (field width : Nat) (s : String) :
    (text field width s).content.length ≤ width := by
  simp only [text, List.length_take]
  omega

@[simp] theorem FieldWrite.field_text (field width : Nat) (s : String) :
    (text field width s).field = field := rfl

@[simp] theorem FieldWrite.width_text (field width : Nat) (s : String) :
    (text field width s).width = width := rfl

theorem FieldWrite.padded_text (field width : Nat) (s : String) :
    (text field width s).padded = Octets.terminated width (Utf8.encode s) := rfl

/-- A number takes the whole of its field. -/
theorem FieldWrite.padded_number (field width n : Nat) :
    (FieldWrite.mk field width (Octets.ofNat width n)).padded = Octets.ofNat width n := by
  simp [padded]

theorem FieldWrite.padded_byte (field : Nat) (b : UInt8) :
    (FieldWrite.mk field 1 [b]).padded = [b] := rfl

namespace ImageSpec

theorem inOrder_bankFields (position : Nat) (b : BankSpec) :
    InOrder 0 Layout.Topology.recordSize (bankFields position b) := by
  simp only [InOrder, bankFields, FieldWrite.length_text_le, FieldWrite.field_text,
    FieldWrite.width_text, Octets.length_ofNat, List.length_singleton, Nat.le_refl, true_and]
  decide

theorem recordBytes_bankFields (position : Nat) (b : BankSpec) :
    recordBytes 0 Layout.Topology.recordSize (bankFields position b) = bankRecord position b := by
  simp only [recordBytes, bankFields, FieldWrite.padded_text, FieldWrite.padded_number,
    FieldWrite.padded_byte, FieldWrite.field_text, FieldWrite.width_text, bankRecord]
  simp [Layout.Topology.memoryType, Layout.Topology.used, Layout.Topology.sizeKb,
    Layout.Topology.baseAddress, Layout.Topology.tag, Layout.Topology.tagSize,
    Layout.Topology.recordSize]

theorem inOrder_recordFields (start : Nat) (p : Payload) :
    InOrder 0 Layout.recordSize (recordFields start p) := by
  simp only [InOrder, recordFields, FieldWrite.length_text_le, FieldWrite.field_text,
    FieldWrite.width_text, Octets.length_ofNat, Nat.le_refl, true_and]
  decide

theorem recordBytes_recordFields (start : Nat) (p : Payload) :
    recordBytes 0 Layout.recordSize (recordFields start p) = directoryRecord start p := by
  simp only [recordBytes, recordFields, FieldWrite.padded_text, FieldWrite.padded_number,
    FieldWrite.field_text, FieldWrite.width_text, directoryRecord]
  simp [Layout.Record.kind, Layout.Record.name, Layout.Record.nameSize, Layout.Record.offset,
    Layout.Record.size, Layout.recordSize]

theorem inOrder_headerFields (s : ImageSpec) (total sections : Nat) :
    InOrder 0 Layout.headerSize (s.headerFields total sections) := by
  simp only [InOrder, headerFields, FieldWrite.length_text_le, FieldWrite.field_text,
    FieldWrite.width_text, Octets.length_ofNat, List.length_singleton, Nat.le_refl, true_and]
  decide

theorem recordBytes_headerFields (s : ImageSpec) (total sections : Nat) :
    recordBytes 0 Layout.headerSize (s.headerFields total sections) =
      s.headerBytes total sections := by
  simp only [recordBytes, headerFields, FieldWrite.padded_text, FieldWrite.padded_number,
    FieldWrite.padded_byte, FieldWrite.field_text, FieldWrite.width_text, headerBytes]
  simp [Layout.Header.length, Layout.Header.versionPatch, Layout.Header.versionMajor,
    Layout.Header.versionMinor, Layout.Header.mode, Layout.Header.platformName,
    Layout.Header.platformNameSize, Layout.Header.sectionCount, Layout.headerSize]

theorem inOrder_preambleFields : InOrder 0 Layout.header preambleFields := by
  simp only [InOrder, preambleFields]
  decide

theorem recordBytes_preambleFields : recordBytes 0 Layout.header preambleFields = preamble := by
  have magic : (FieldWrite.mk 0 Layout.magicSize Layout.magic).padded = Layout.magic := rfl
  have signature : (FieldWrite.mk Layout.signatureLength 4 (Octets.ofInt32 (-1))).padded =
      Octets.ofInt32 (-1) := rfl
  simp only [recordBytes, preambleFields, magic, signature, preamble]
  simp [Layout.signatureLength, Layout.magicSize, Layout.header]

theorem inOrder_payload (data : Octets) :
    InOrder 0 data.length [⟨0, data.length, data⟩] := by
  simp [InOrder]

theorem recordBytes_payload (data : Octets) :
    recordBytes 0 data.length [⟨0, data.length, data⟩] = data := by
  simp [recordBytes, FieldWrite.padded]

/-! ### The topology -/

theorem fillBanks?_eq (position : Nat) (banks : List BankSpec) :
    fillBanks? position banks = some (bankRecords position banks) := by
  induction banks generalizing position with
  | nil => rfl
  | cons b rest ih =>
    rw [fillBanks?, putRecord?_whole (inOrder_bankFields position b), recordBytes_bankFields, ih,
      bankRecords]
    simp

theorem fillTopology?_eq (s : ImageSpec) : s.fillTopology? = some s.topologyPayload := by
  rw [fillTopology?, fillBanks?_eq, Option.map_some, topologyPayload]

/-! ### Offsets and sections -/

theorem payloadBytes_cons (p : Payload) (rest : List Payload) :
    payloadBytes (p :: rest) = p.data.padded8 ++ payloadBytes rest := List.flatMap_cons

/-- The offsets that the first pass finds are those at which the payloads come to stand. -/
theorem offsets_eq {cursor : Nat} (aligned : cursor % 8 = 0) (ps : List Payload) :
    offsets cursor ps = ((placed cursor ps).map Prod.fst, cursor + (payloadBytes ps).length) := by
  induction ps generalizing cursor with
  | nil => rfl
  | cons p rest ih =>
    have next : Octets.align8 (cursor + p.data.length) = cursor + Octets.align8 p.data.length := by
      unfold Octets.align8
      omega
    have next_aligned : (cursor + Octets.align8 p.data.length) % 8 = 0 := by
      have := Octets.align8_mod p.data.length
      omega
    rw [offsets, next, ih next_aligned, placed, payloadBytes_cons, List.length_append,
      Octets.length_padded8, ← Nat.add_assoc]
    rfl

/-- A section is put down over zero bytes in two places. -/
theorem putSection?_zeros {front between back : Octets} {position offset : Nat} {p : Payload}
    (directory : front.length = Layout.directory + position * Layout.recordSize)
    (start : offset = front.length + Layout.recordSize + between.length) :
    putSection? position p offset
        (.ofList (front ++ Octets.zeros Layout.recordSize ++
          (between ++ Octets.zeros p.data.length ++ back))) =
      some (.ofList (front ++ directoryRecord offset p ++ between ++ p.data ++ back)) := by
  have reached : (front ++ directoryRecord offset p ++ between).length = offset := by
    simp only [List.length_append, length_directoryRecord]
    omega
  have behind : front ++ directoryRecord offset p ++
      (between ++ Octets.zeros p.data.length ++ back) =
        front ++ directoryRecord offset p ++ between ++ Octets.zeros p.data.length ++ back := by
    simp only [List.append_assoc]
  have payload : putRecord? (front ++ directoryRecord offset p ++ between).length p.data.length
      [⟨0, p.data.length, p.data⟩] (.ofList (front ++ directoryRecord offset p ++ between ++
        Octets.zeros p.data.length ++ back)) = some _ := putRecord?_zeros (inOrder_payload p.data)
  rw [reached, recordBytes_payload] at payload
  rw [putSection?, ← directory, putRecord?_zeros (inOrder_recordFields offset p),
    recordBytes_recordFields, Option.bind_eq_bind, Option.bind_some, behind, payload]

/-- Directory and payloads are filled from zero bytes, both at once: records from the front of the
directory on, payloads from the end of those before them. -/
theorem fillSections?_zeros {front gap body : Octets} {position offset : Nat} {ps : List Payload}
    (directory : front.length = Layout.directory + position * Layout.recordSize)
    (start : offset = front.length + ps.length * Layout.recordSize + gap.length + body.length) :
    fillSections? position
        (.ofList (front ++ Octets.zeros (ps.length * Layout.recordSize) ++ gap ++ body ++
          Octets.zeros (payloadBytes ps).length))
        (ps.zip ((placed offset ps).map Prod.fst)) =
      some (.ofList (front ++ directoryRecords offset ps ++ gap ++ body ++ payloadBytes ps)) := by
  induction ps generalizing front body position offset with
  | nil => simp [fillSections?, directoryRecords, payloadBytes, placed]
  | cons p rest ih =>
    have room := Octets.le_align8 p.data.length
    have records : (p :: rest).length * Layout.recordSize =
        Layout.recordSize + rest.length * Layout.recordSize := by
      rw [List.length_cons, Nat.succ_mul, Nat.add_comm]
    have payloads : (payloadBytes (p :: rest)).length = p.data.length +
        (Octets.align8 p.data.length - p.data.length + (payloadBytes rest).length) := by
      rw [payloadBytes_cons, List.length_append, Octets.length_padded8]
      omega
    have zipped : (p :: rest).zip ((placed offset (p :: rest)).map Prod.fst) = (p, offset) ::
        rest.zip ((placed (offset + Octets.align8 p.data.length) rest).map Prod.fst) := rfl
    have before : front ++ Octets.zeros ((p :: rest).length * Layout.recordSize) ++ gap ++ body ++
        Octets.zeros (payloadBytes (p :: rest)).length =
          front ++ Octets.zeros Layout.recordSize ++
            (Octets.zeros (rest.length * Layout.recordSize) ++ gap ++ body ++
              Octets.zeros p.data.length ++ Octets.zeros
                (Octets.align8 p.data.length - p.data.length + (payloadBytes rest).length)) := by
      simp only [records, payloads, ← Octets.zeros_append, List.append_assoc]
    have after : front ++ directoryRecord offset p ++
        (Octets.zeros (rest.length * Layout.recordSize) ++ gap ++ body) ++ p.data ++ Octets.zeros
          (Octets.align8 p.data.length - p.data.length + (payloadBytes rest).length) =
        front ++ directoryRecord offset p ++ Octets.zeros (rest.length * Layout.recordSize) ++
          gap ++ (body ++ p.data.padded8) ++ Octets.zeros (payloadBytes rest).length := by
      simp only [Octets.padded8, ← Octets.zeros_append, List.append_assoc]
    rw [zipped, fillSections?, before, putSection?_zeros directory, Option.bind_eq_bind,
      Option.bind_some, after, ih]
    · simp only [directoryRecords, payloadBytes_cons, List.append_assoc]
    · rw [List.length_append, length_directoryRecord, directory, Nat.succ_mul, Nat.add_assoc]
    · simp only [List.length_append, length_directoryRecord, Octets.length_padded8]
      omega
    · simp only [List.length_append, Octets.length_zeros]
      omega

/-! ### The image -/

theorem payloadStart_mod (records : Nat) : payloadStart records % 8 = 0 := Octets.align8_mod _

/-- What stands in front of the directory is put down over zero bytes. -/
theorem putFront?_zeros (s : ImageSpec) (total sections : Nat) (back : Octets) :
    s.putFront? total sections
        (.ofList (Octets.zeros Layout.header ++ Octets.zeros Layout.headerSize ++ back)) =
      some (.ofList (preamble ++ s.headerBytes total sections ++ back)) := by
  have first : putRecord? ([] : Octets).length Layout.header preambleFields
      (.ofList ([] ++ Octets.zeros Layout.header ++ (Octets.zeros Layout.headerSize ++ back))) =
        some _ := putRecord?_zeros inOrder_preambleFields
  have second : putRecord? preamble.length Layout.headerSize (s.headerFields total sections)
      (.ofList (preamble ++ Octets.zeros Layout.headerSize ++ back)) = some _ :=
    putRecord?_zeros (inOrder_headerFields s total sections)
  rw [recordBytes_preambleFields, List.nil_append, List.nil_append, List.length_nil,
    ← List.append_assoc, ← List.append_assoc] at first
  rw [recordBytes_headerFields, length_preamble] at second
  rw [putFront?, first, Option.bind_eq_bind, Option.bind_some, second]

/-- Filling a buffer in place comes to the image, and no write is refused. -/
theorem fill?_eq (s : ImageSpec) : s.fill? = some s.build := by
  have passed : offsets (payloadStart s.payloads.length) s.payloads = _ :=
    offsets_eq (payloadStart_mod _) s.payloads
  have room := directory_le_payloadStart s.payloads.length
  simp only [fill?, passed, build, octets]
  generalize s.payloads = ps at room ⊢
  generalize payloadStart ps.length = start at room ⊢
  have ends : Layout.header + Layout.headerSize = Layout.directory := rfl
  generalize gap_eq : Octets.zeros (start - Layout.directory - (directoryRecords start ps).length) =
    gap
  have gap_length : gap.length = start - Layout.directory - ps.length * Layout.recordSize := by
    rw [← gap_eq, Octets.length_zeros, length_directoryRecords]
  have front : (preamble ++ s.headerBytes (start + (payloadBytes ps).length) ps.length).length =
      Layout.directory + 0 * Layout.recordSize := by
    rw [List.length_append, length_preamble, length_headerBytes]
    rfl
  have reached : start = (preamble ++ s.headerBytes (start + (payloadBytes ps).length)
      ps.length).length + ps.length * Layout.recordSize + gap.length + ([] : Octets).length := by
    rw [front, gap_length, List.length_nil]
    omega
  have blank : Bytes.zeros (start + (payloadBytes ps).length) =
      .ofList (Octets.zeros Layout.header ++ Octets.zeros Layout.headerSize ++
        (Octets.zeros (ps.length * Layout.recordSize) ++ gap ++ [] ++
          Octets.zeros (payloadBytes ps).length)) := by
    refine Bytes.ext_toList ?_
    simp only [← gap_eq, length_directoryRecords, Bytes.toList_zeros, Bytes.toList_ofList,
      Octets.zeros_append, List.append_nil]
    congr 1
    omega
  have sections := fillSections?_zeros front reached
  rw [blank, putFront?_zeros, Option.bind_eq_bind, Option.bind_some]
  simp only [List.append_nil, ← List.append_assoc] at sections ⊢
  exact sections

end ImageSpec

end FpgaHost
