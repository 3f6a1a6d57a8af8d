import FpgaHost.Proofs.Image.Parsed
import Mathlib.Data.List.Induction

/-!
# The banks of arguments

Connections are followed from front to back (`assignBankTags_eq_foldl`). One that names an argument
and a bank in use gives the argument, if it is declared, the tag of the bank, whatever tag it had
(`Connection.Names`); any other changes nothing, wherever it stands (`Connection.Idle`). So all that
an image adds to the arguments of its manifest is tags, and the tag of an argument is that of its
last connection (`LastNames`).

Main statement: `Image.bankTags_exact`.
-/

namespace FpgaHost

/-! ### One connection -/

theorem position?_eq_some_iff {n : Int32} {k : Nat} : position? n = some k ↔ n.toInt = (k : Int) := by
  unfold position?
  split
  · simp only [reduceCtorEq, false_iff]
    omega
  · rw [Option.some.injEq]
    omega

namespace Connection

/-- A connection names an argument by its index, and a bank in use by its position in the
topology. -/
structure Names (banks : List MemoryBank) (c : Connection) (index : Nat) (bank : MemoryBank) :
    Prop where
  /-- It has the index of the argument. -/
  argument : c.argument.toInt = (index : Int)
  /-- It has the position of the bank. -/
  position : ∃ position : Nat, c.bank.toInt = (position : Int) ∧ banks[position]? = some bank
  /-- The bank is in use. -/
  used : bank.used = true

/-- One of the two numbers of a connection leads nowhere. -/
inductive Idle (args : ArgumentTable) (banks : List MemoryBank) (c : Connection) : Prop
  /-- The index of the argument is negative. -/
  | noIndex (negative : c.argument.toInt < 0)
  /-- No argument has this index. -/
  | undeclared {index : Nat} (argument : c.argument.toInt = (index : Int))
      (absent : args.contains index = false)
  /-- The position of the bank is negative. -/
  | noPosition (negative : c.bank.toInt < 0)
  /-- The topology ends before this position. -/
  | outOfRange (beyond : (banks.length : Int) ≤ c.bank.toInt)
  /-- The bank at this position is not in use. -/
  | unused {position : Nat} {bank : MemoryBank} (there : c.bank.toInt = (position : Int))
      (found : banks[position]? = some bank) (spare : bank.used = false)

variable {args : ArgumentTable} {banks : List MemoryBank} {c : Connection} {index : Nat}
  {bank : MemoryBank}

theorem tag?_eq_some_iff {tag : String} :
    c.tag? banks.toArray = some (index, tag) ↔ ∃ bank, c.Names banks index bank ∧ bank.tag = tag := by
  simp only [tag?, Option.bind_eq_bind, Option.bind_eq_some_iff, position?_eq_some_iff,
    List.getElem?_toArray]
  constructor
  · rintro ⟨i, argument, position, there, bank, found, tagged⟩
    split at tagged
    next used =>
      cases tagged
      exact ⟨bank, ⟨argument, ⟨position, there, found⟩, used⟩, rfl⟩
    · contradiction
  · rintro ⟨bank, ⟨argument, ⟨position, there, found⟩, used⟩, rfl⟩
    exact ⟨index, argument, position, there, bank, found, if_pos used⟩

/-- A connection does nothing exactly if it names no declared argument together with a bank in
use. -/
theorem idle_iff :
    c.Idle args banks ↔ ∀ index bank, c.Names banks index bank → args.contains index = false := by
  constructor
  · rintro idle i bank ⟨argument, ⟨position, there, found⟩, used⟩
    have inside : position < banks.length := (List.getElem?_eq_some_iff.1 found).1
    cases idle with
    | noIndex negative => omega
    | undeclared argument' absent =>
      rw [argument, Int.natCast_inj] at argument'
      rwa [argument']
    | noPosition negative => omega
    | outOfRange beyond => omega
    | unused there' found' spare =>
      rw [there, Int.natCast_inj] at there'
      rw [← there', found, Option.some.injEq] at found'
      rw [← found', used] at spare
      contradiction
  · intro harmless
    by_cases negative : c.argument.toInt < 0
    · exact .noIndex negative
    by_cases nowhere : c.bank.toInt < 0
    · exact .noPosition nowhere
    obtain ⟨i, argument⟩ := Int.eq_ofNat_of_zero_le (Int.not_lt.1 negative)
    obtain ⟨position, there⟩ := Int.eq_ofNat_of_zero_le (Int.not_lt.1 nowhere)
    cases found : banks[position]? with
    | none =>
      have beyond := List.getElem?_eq_none_iff.1 found
      exact .outOfRange (by omega)
    | some bank =>
      cases used : bank.used with
      | false => exact .unused there found used
      | true =>
        have names : c.Names banks i bank := ⟨argument, ⟨position, there, found⟩, used⟩
        exact .undeclared argument (harmless i bank names)

/-- What a connection does to arguments. -/
def apply (banks : List MemoryBank) (args : ArgumentTable) (c : Connection) : ArgumentTable :=
  match c.tag? banks.toArray with
  | some (index, tag) => args.modify index fun a => { a with bankTag := some tag }
  | none => args

theorem get?_apply_of_names (args : ArgumentTable) (names : c.Names banks index bank) :
    (c.apply banks args).get? index =
      (args.get? index).map fun a => { a with bankTag := some bank.tag } := by
  rw [apply, tag?_eq_some_iff.2 ⟨bank, names, rfl⟩]
  exact Table.get?_modify_self args index _

theorem get?_apply_of_not_names (args : ArgumentTable)
    (other : ∀ bank, ¬ c.Names banks index bank) :
    (c.apply banks args).get? index = args.get? index := by
  unfold apply
  split
  next i tag given =>
    obtain ⟨bank, names, -⟩ := tag?_eq_some_iff.1 given
    refine Table.get?_modify_of_ne args ?_ _
    rintro rfl
    exact other bank names
  · rfl

/-- A connection that does nothing changes nothing. -/
theorem apply_of_idle (idle : c.Idle args banks) : c.apply banks args = args := by
  refine Table.ext_get? fun i => ?_
  by_cases named : ∃ bank, c.Names banks i bank
  · obtain ⟨bank, names⟩ := named
    have absent := Table.contains_eq_false_iff.1 (idle_iff.1 idle i bank names)
    rw [get?_apply_of_names args names, absent, Option.map_none]
  · exact get?_apply_of_not_names args (not_exists.1 named)

end Connection

/-! ### One after the other -/

section

variable {args : ArgumentTable} {banks : List MemoryBank} {connections before after : List Connection}
  {c : Connection} {index : Nat} {bank : MemoryBank}

theorem connectedTags_concat (banks : Array MemoryBank) (connections : List Connection)
    (c : Connection) :
    connectedTags banks (connections ++ [c]) =
      match c.tag? banks with
      | some (index, tag) => (connectedTags banks connections).insert index tag
      | none => connectedTags banks connections := by
  rw [connectedTags, List.filterMap_append, List.foldl_append]
  cases given : c.tag? banks <;> simp [given, connectedTags]

/-- One more connection is followed after all the others. -/
theorem assignBankTags_concat (args : ArgumentTable) (banks : List MemoryBank)
    (connections : List Connection) (c : Connection) :
    assignBankTags args banks.toArray (connections ++ [c]) =
      c.apply banks (assignBankTags args banks.toArray connections) := by
  refine Table.ext_get? fun i => ?_
  rw [assignBankTags, connectedTags_concat, Connection.apply]
  cases c.tag? banks.toArray with
  | none => rfl
  | some given =>
    obtain ⟨index, tag⟩ := given
    dsimp only
    rw [Table.get?_modify, assignBankTags, Table.get?_map, Table.get?_map]
    simp only [Std.TreeMap.getElem?_insert, Std.LawfulEqCmp.compare_eq_iff_eq]
    by_cases same : index = i
    · subst same
      simp only [if_true, Option.map_map]
      refine congrArg (Option.map · _) (funext fun a => ?_)
      dsimp only [Function.comp]
      split <;> rfl
    · have apart : ¬ Key.rank index = Key.rank i := same
      simp only [if_neg same, if_neg apart]

/-- Arguments are placed by following one connection after the other. -/
theorem assignBankTags_eq_foldl (args : ArgumentTable) (banks : List MemoryBank)
    (connections : List Connection) :
    assignBankTags args banks.toArray connections =
      connections.foldl (fun args c => c.apply banks args) args := by
  induction connections using List.reverseRecOn with
  | nil =>
    rw [assignBankTags]
    exact Table.map_self fun e _ => rfl
  | append_singleton connections c ih =>
    rw [assignBankTags_concat, ih, List.foldl_append]
    rfl

theorem assignBankTags_nil (args : ArgumentTable) (banks : List MemoryBank) :
    assignBankTags args banks.toArray [] = args := by
  rw [assignBankTags_eq_foldl, List.foldl_nil]

theorem assignBankTags_append (args : ArgumentTable) (banks : List MemoryBank)
    (before after : List Connection) :
    assignBankTags args banks.toArray (before ++ after) =
      assignBankTags (assignBankTags args banks.toArray before) banks.toArray after := by
  rw [assignBankTags_eq_foldl, assignBankTags_eq_foldl, assignBankTags_eq_foldl, List.foldl_append]

theorem assignBankTags_cons (args : ArgumentTable) (banks : List MemoryBank) (c : Connection)
    (after : List Connection) :
    assignBankTags args banks.toArray (c :: after) =
      assignBankTags (c.apply banks args) banks.toArray after := by
  rw [assignBankTags_eq_foldl, assignBankTags_eq_foldl, List.foldl_cons]

/-! ### What is kept -/

/-- All of an argument but its tag. -/
def Argument.withoutBank (a : Argument) : Argument := { a with bankTag := none }

theorem map_withoutBank_assignBankTags (args : ArgumentTable) (banks : Array MemoryBank)
    (connections : List Connection) :
    (assignBankTags args banks connections).map (fun _ a => a.withoutBank) =
      args.map fun _ a => a.withoutBank := by
  rw [assignBankTags, Table.map_map]
  refine Table.map_congr fun e _ => ?_
  split <;> rfl

theorem contains_assignBankTags (args : ArgumentTable) (banks : Array MemoryBank)
    (connections : List Connection) (index : Nat) :
    (assignBankTags args banks connections).contains index = args.contains index := by
  rw [assignBankTags, Table.contains, Table.get?_map, Option.isSome_map, Table.contains]

/-- A connection that does nothing can be left out, wherever it stands. -/
theorem assignBankTags_of_idle (idle : c.Idle args banks) :
    assignBankTags args banks.toArray (before ++ c :: after) =
      assignBankTags args banks.toArray (before ++ after) := by
  have still : c.Idle (assignBankTags args banks.toArray before) banks := by
    rw [Connection.idle_iff] at idle ⊢
    intro index bank names
    rw [contains_assignBankTags]
    exact idle index bank names
  rw [assignBankTags_append, assignBankTags_cons, Connection.apply_of_idle still,
    assignBankTags_append]

/-! ### The last connection -/

/-- The last connection that names an argument, together with a bank in use, names this bank. -/
def LastNames (banks : List MemoryBank) (connections : List Connection) (index : Nat)
    (bank : MemoryBank) : Prop :=
  ∃ before c after, connections = before ++ c :: after ∧ c.Names banks index bank ∧
    ∀ later ∈ after, ∀ other, ¬ later.Names banks index other

theorem lastNames_or_none (banks : List MemoryBank) (connections : List Connection) (index : Nat) :
    (∃ bank, LastNames banks connections index bank) ∨
      ∀ c ∈ connections, ∀ bank, ¬ c.Names banks index bank := by
  induction connections with
  | nil => exact .inr fun c mem => absurd mem List.not_mem_nil
  | cons c rest ih =>
    rcases ih with ⟨bank, before, d, after, rfl, names, last⟩ | none
    · exact .inl ⟨bank, c :: before, d, after, rfl, names, last⟩
    · by_cases named : ∃ bank, c.Names banks index bank
      · obtain ⟨bank, names⟩ := named
        exact .inl ⟨bank, [], c, rest, rfl, names, none⟩
      · exact .inr (List.forall_mem_cons.2 ⟨not_exists.1 named, none⟩)

theorem get?_assignBankTags_of_none (args : ArgumentTable)
    (none : ∀ c ∈ connections, ∀ bank, ¬ c.Names banks index bank) :
    (assignBankTags args banks.toArray connections).get? index = args.get? index := by
  induction connections generalizing args with
  | nil => rw [assignBankTags_nil]
  | cons c rest ih =>
    obtain ⟨first, others⟩ := List.forall_mem_cons.1 none
    rw [assignBankTags_cons, ih (c.apply banks args) others,
      Connection.get?_apply_of_not_names args first]

theorem get?_assignBankTags_of_last (args : ArgumentTable)
    (last : LastNames banks connections index bank) :
    (assignBankTags args banks.toArray connections).get? index =
      (args.get? index).map fun a => { a with bankTag := some bank.tag } := by
  obtain ⟨before, c, after, rfl, names, none⟩ := last
  -- the connections before it leave a tag at most, and this tag is replaced
  have kept := congrArg (fun t : ArgumentTable => t.get? index)
    (map_withoutBank_assignBankTags args banks.toArray before)
  simp only [Table.get?_map] at kept
  have replaced (a : Argument) : { a with bankTag := some bank.tag } =
      { a.withoutBank with bankTag := some bank.tag } := rfl
  rw [assignBankTags_append, assignBankTags_cons, get?_assignBankTags_of_none _ none,
    Connection.get?_apply_of_names _ names, funext replaced]
  have both := congrArg (Option.map fun a : Argument => { a with bankTag := some bank.tag }) kept
  rwa [Option.map_map, Option.map_map] at both

/-- Arguments without tags take those of their last connections. -/
theorem bankTag_eq_some_iff (unplaced : Manifest.Unplaced args) {a : Argument}
    (there : (assignBankTags args banks.toArray connections).get? index = some a) {tag : String} :
    a.bankTag = some tag ↔ ∃ bank, LastNames banks connections index bank ∧ bank.tag = tag := by
  constructor
  · intro tagged
    rcases lastNames_or_none banks connections index with ⟨bank, last⟩ | none
    · rw [get?_assignBankTags_of_last args last, Option.map_eq_some_iff] at there
      obtain ⟨declared, -, rfl⟩ := there
      exact ⟨bank, last, Option.some.inj tagged⟩
    · rw [get?_assignBankTags_of_none args none, ← Table.mem_entries_iff] at there
      rw [unplaced (index, a) there] at tagged
      contradiction
  · rintro ⟨bank, last, rfl⟩
    rw [get?_assignBankTags_of_last args last, Option.map_eq_some_iff] at there
    obtain ⟨declared, -, rfl⟩ := there
    rfl

/-- Those without connections stay without tags. -/
theorem bankTag_eq_none_iff (unplaced : Manifest.Unplaced args) {a : Argument}
    (there : (assignBankTags args banks.toArray connections).get? index = some a) :
    a.bankTag = none ↔ ∀ c ∈ connections, ∀ bank, ¬ c.Names banks index bank := by
  constructor
  · intro untagged
    refine (lastNames_or_none banks connections index).resolve_left ?_
    rintro ⟨bank, last⟩
    rw [(bankTag_eq_some_iff unplaced there).2 ⟨bank, last, rfl⟩] at untagged
    contradiction
  · intro none
    rw [get?_assignBankTags_of_none args none, ← Table.mem_entries_iff] at there
    exact unplaced (index, a) there

end

/-! ### Images -/

namespace Image

/-- The topology of an image lists these banks. -/
def ListsBanks (image : Image) (data : Bytes) (banks : List MemoryBank) : Prop :=
  ∃ base payload, findSection data image.sections .memTopology = .ok (some (base, payload)) ∧
    readMemoryBanks payload base = .ok banks

/-- The connectivity table of an image lists these connections. -/
def ListsConnections (image : Image) (data : Bytes) (connections : List Connection) : Prop :=
  ∃ base payload, findSection data image.sections .connectivity = .ok (some (base, payload)) ∧
    readConnections payload base = .ok connections

/-- The banks and the connections that place the arguments of an image. -/
inductive PlacedBy (image : Image) (data : Bytes) : List MemoryBank → List Connection → Prop
  /-- There is no topology. -/
  | noTopology (missing : image.first? .memTopology = none) : PlacedBy image data [] []
  /-- There is a topology, but no connectivity table. -/
  | noConnectivity {banks : List MemoryBank} (topology : image.ListsBanks data banks)
      (missing : image.first? .connectivity = none) : PlacedBy image data banks []
  /-- There are both. -/
  | tables {banks : List MemoryBank} {connections : List Connection}
      (topology : image.ListsBanks data banks)
      (connectivity : image.ListsConnections data connections) : PlacedBy image data banks connections

variable {data : Bytes} {image : Image}

theorem ReadFrom.placedBy {manifest : Manifest} (whole : image.ReadFrom data manifest) :
    ∃ banks connections, image.PlacedBy data banks connections ∧
      image.args = assignBankTags manifest.args banks.toArray connections := by
  obtain ⟨topology, found, placed⟩ := bind_eq_ok_iff.1 whole.args
  cases topology with
  | none =>
    refine ⟨[], [], .noTopology (findSection_eq_none_iff.1 found), ?_⟩
    rw [assignBankTags_nil]
    exact (Except.ok.inj placed).symm
  | some topology =>
    obtain ⟨banks, listed, placed⟩ := bind_eq_ok_iff.1 placed
    obtain ⟨connectivity, found', placed⟩ := bind_eq_ok_iff.1 placed
    have topology : image.ListsBanks data banks := ⟨_, _, found, listed⟩
    cases connectivity with
    | none =>
      refine ⟨banks, [], .noConnectivity topology (findSection_eq_none_iff.1 found'), ?_⟩
      rw [assignBankTags_nil]
      exact (Except.ok.inj placed).symm
    | some connectivity =>
      obtain ⟨connections, listed', placed⟩ := bind_eq_ok_iff.1 placed
      have connectivity : image.ListsConnections data connections := ⟨_, _, found', listed'⟩
      exact ⟨banks, connections, .tables topology connectivity, (Except.ok.inj placed).symm⟩

/-- Without a topology, or without a connectivity table, nothing is connected. -/
theorem PlacedBy.connections_eq_nil {banks : List MemoryBank} {connections : List Connection}
    (placed : image.PlacedBy data banks connections)
    (missing : image.first? .memTopology = none ∨ image.first? .connectivity = none) :
    connections = [] := by
  cases placed with
  | noTopology => rfl
  | noConnectivity => rfl
  | tables topology connectivity =>
    obtain ⟨base, payload, found, -⟩ := topology
    obtain ⟨base', payload', found', -⟩ := connectivity
    rcases missing with missing | missing
    · rw [findSection_eq_none_iff.2 missing] at found
      cases found
    · rw [findSection_eq_none_iff.2 missing] at found'
      cases found'

/-- The arguments of every image are those of its manifest but for their tags. An argument has the
tag of the bank that its last connection names, and none if there is no such connection, which is so
if one of the two tables is missing. A connection that leads nowhere could as well be left out. -/
theorem bankTags_exact (answered : read data = .ok image) :
    ∃ manifest banks connections, image.ReadFrom data manifest ∧
      image.PlacedBy data banks connections ∧
      image.args.map (fun _ a => a.withoutBank) = manifest.args ∧
      (∀ index a, image.args.get? index = some a →
        (∀ tag, a.bankTag = some tag ↔
          ∃ bank, LastNames banks connections index bank ∧ bank.tag = tag) ∧
        (a.bankTag = none ↔ ∀ c ∈ connections, ∀ bank, ¬ c.Names banks index bank) ∧
        (image.first? .memTopology = none ∨ image.first? .connectivity = none →
          a.bankTag = none)) ∧
      ∀ before c after, connections = before ++ c :: after → c.Idle manifest.args banks →
        image.args = assignBankTags manifest.args banks.toArray (before ++ after) := by
  obtain ⟨manifest, whole⟩ := read_eq_ok_iff.1 answered
  obtain ⟨base, payload, -, manifest_read⟩ := whole.payload
  have unplaced := Manifest.unplaced_of_read manifest_read
  obtain ⟨banks, connections, placed, args⟩ := whole.placedBy
  refine ⟨manifest, banks, connections, whole, placed, ?_, fun index a there => ?_, ?_⟩
  · rw [args, map_withoutBank_assignBankTags]
    exact Table.map_self fun e mem => by rw [Argument.withoutBank, ← unplaced e mem]
  · rw [args] at there
    refine ⟨fun tag => bankTag_eq_some_iff unplaced there, bankTag_eq_none_iff unplaced there,
      fun missing => (bankTag_eq_none_iff unplaced there).2 ?_⟩
    rw [placed.connections_eq_nil missing]
    exact fun c mem => absurd mem List.not_mem_nil
  · rintro before c after rfl idle
    rw [args, assignBankTags_of_idle idle]

/-- The argument of an image with two banks has the tag of the one in use, though connections that
lead nowhere stand behind the one to it. -/
theorem bankTags_exact_twoBanks :
    let image := ImageSpec.twoBanks.assembled .hardwareEmulation ImageSpec.twoBanks.manifest
    read ImageSpec.twoBanks.build = .ok image ∧
      (image.args.get? 0).map (·.bankTag) = some (some "HBM[0]") ∧
      ∃ banks connections, image.PlacedBy ImageSpec.twoBanks.build banks connections ∧
        ∃ bank, LastNames banks connections 0 bank ∧ bank.tag = "HBM[0]" := by
  intro image
  have answered : read ImageSpec.twoBanks.build = .ok image := ImageSpec.read_twoBanks
  have tagged : (image.args.get? 0).map (·.bankTag) = some (some "HBM[0]") := by decide +kernel
  obtain ⟨manifest, banks, connections, -, placed, -, tags, -⟩ := bankTags_exact answered
  obtain ⟨a, there, tag⟩ := Option.map_eq_some_iff.1 tagged
  exact ⟨answered, tagged, banks, connections, placed, ((tags 0 a there).1 "HBM[0]").1 tag⟩

end Image

end FpgaHost
