import FpgaHost.Proofs.Image.Identification

/-!
# What every image is like

Whatever the bytes were, an image that was read from them keeps them, so it can be read again and is
the same image; it has a kernel; and it lists every argument at its own index, however sparse the
indices are and whatever banks the arguments were connected to.

Main statement: `Image.wellFormed_of_ofBytes`.
-/

namespace FpgaHost

/-- Connecting arguments to banks moves none of them. -/
theorem Manifest.Indexed.assignBankTags {args : ArgumentTable} (indexed : Manifest.Indexed args)
    (banks : Array MemoryBank) (connections : List Connection) :
    Manifest.Indexed (assignBankTags args banks connections) := by
  intro e mem
  obtain ⟨declared, there, rfl⟩ := List.mem_map.1 mem
  have same := indexed declared there
  dsimp only
  split
  · exact same
  · exact same

namespace Image

theorem indexed_of_placeArguments {data : Bytes} {sections : List SectionRecord}
    {args placed : ArgumentTable} (h : placeArguments data sections args = .ok placed)
    (indexed : Manifest.Indexed args) : Manifest.Indexed placed := by
  obtain ⟨topology, -, h⟩ := bind_eq_ok_iff.1 h
  cases topology with
  | none =>
    obtain rfl := Except.ok.inj h
    exact indexed
  | some topology =>
    obtain ⟨banks, -, h⟩ := bind_eq_ok_iff.1 h
    obtain ⟨connectivity, -, h⟩ := bind_eq_ok_iff.1 h
    cases connectivity with
    | none =>
      obtain rfl := Except.ok.inj h
      exact indexed
    | some connectivity =>
      obtain ⟨connections, -, h⟩ := bind_eq_ok_iff.1 h
      obtain rfl := Except.ok.inj h
      exact indexed.assignBankTags banks.toArray connections

/-- There is one format, so an image of any format is one of that format. -/
theorem ofBytes_eq_ok_iff {data : Bytes} {image : Image} :
    ofBytes data = .ok image ↔ read data = .ok image := by
  rw [ofBytes_eq]
  cases magic : hasMagic data with
  | false => simp [read_of_foreign magic]
  | true => exact Iff.rfl

/-- What is true of every image that was read. -/
structure WellFormed (image : Image) : Prop where
  /-- The bytes it keeps say the same. -/
  again : ofBytes image.bytes = .ok image
  /-- There is a kernel. -/
  kernels : image.kernels ≠ []
  /-- Every argument lies at its own index. -/
  indexed : Manifest.Indexed image.args

theorem wellFormed_of_ofBytes {data : Bytes} {image : Image} (h : ofBytes data = .ok image) :
    image.bytes = data ∧ image.WellFormed := by
  obtain ⟨manifest, whole⟩ := read_eq_ok_iff.1 (ofBytes_eq_ok_iff.1 h)
  obtain ⟨base, payload, -, manifest_read⟩ := whole.payload
  have bytes : image.bytes = data := by rw [whole.rest]
  have kernels : image.kernels = manifest.kernels := by rw [whole.rest]
  exact ⟨bytes, by rw [bytes, h], by rw [kernels]; exact (Manifest.declared_of_read manifest_read).1,
    indexed_of_placeArguments whole.args (Manifest.indexed_of_read manifest_read)⟩

end Image

end FpgaHost
