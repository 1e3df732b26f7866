import Stompman.Config
import Mathlib.Data.List.Forall2

/-!
# Servers from a multi-host URL

`ConnectionParameters.from_pydantic_multihost_hosts` collects addresses and credentials into two
lists and rejoins them by position. It succeeds exactly on the lists of records whose credentials
are unambiguous, and no record then gets the credentials of another one unless there is a single
pair in the whole list.
-/

namespace Stompman

/-- `MultiHostHostLike`. -/
structure MultiHostHostLike where
  username : Option String
  password : Option String
  host : Option String
  port : Option Int
  deriving DecidableEq

/-- `ValueError` with its message. -/
structure ValueError where
  message : String
  deriving DecidableEq

/-- The two lists that the loop appends to. -/
structure CollectedHosts where
  allHosts : List (String × Int)
  allCredentials : List (String × String)
  deriving DecidableEq

/-- One pass of the loop over the records. -/
def collectHost (collected : CollectedHosts) (record : MultiHostHostLike) :
    Except ValueError CollectedHosts :=
  match record.host with
  | none => .error ⟨"host must be set"⟩
  | some host =>
      match record.port with
      | none => .error ⟨"port must be set"⟩
      | some port =>
          let allHosts := collected.allHosts ++ [(host, port)]
          match record.username, record.password with
          | none, none => .ok { collected with allHosts }
          | none, some _ => .error ⟨"password is set, username must be set"⟩
          | some _, none => .error ⟨"username is set, password must be set"⟩
          | some username, some password =>
              .ok ⟨allHosts, collected.allCredentials ++ [(username, password)]⟩

/-- `cls(host=host, port=port, login=username, passcode=password)`. -/
def ConnectionParameters.ofPair (address : String × Int) (credentials : String × String) :
    ConnectionParameters where
  host := address.1
  port := address.2
  login := credentials.1
  passcode := credentials.2

/-- The match on the number of collected credentials. -/
def assignCredentials (collected : CollectedHosts) :
    Except ValueError (List ConnectionParameters) :=
  if collected.allCredentials.length = collected.allHosts.length then
    .ok (List.zipWith .ofPair collected.allHosts collected.allCredentials)
  else
    match collected.allCredentials with
    | [credentials] => .ok (collected.allHosts.map (.ofPair · credentials))
    | [] => .error ⟨"username and password must be set"⟩
    | _ => .error ⟨"all username-password pairs or only one pair must be set"⟩

/-- `ConnectionParameters.from_pydantic_multihost_hosts`. -/
def ConnectionParameters.fromPydanticMultihostHosts (hosts : List MultiHostHostLike) :
    Except ValueError (List ConnectionParameters) :=
  (hosts.foldlM collectHost ⟨[], []⟩).bind assignCredentials

namespace MultiHostHostLike

variable {record : MultiHostHostLike} {records : List MultiHostHostLike}

/-- The record's own pair, when it has both parts. -/
def credentials (record : MultiHostHostLike) : Option (String × String) :=
  record.username.bind fun username => record.password.map fun password => (username, password)

/-- The record's own address, when it has both parts. -/
def address (record : MultiHostHostLike) : Option (String × Int) :=
  record.host.bind fun host => record.port.map fun port => (host, port)

/-- A host, a port, and both or neither of username and password. -/
def WellFormed (record : MultiHostHostLike) : Prop :=
  record.host.isSome ∧ record.port.isSome ∧ (record.username.isSome ↔ record.password.isSome)

instance : DecidablePred WellFormed :=
  fun _ => inferInstanceAs (Decidable (_ ∧ _ ∧ (_ ↔ _)))

/-- Well-formed records with no pair missing, or with one pair in all. -/
def Unambiguous (records : List MultiHostHostLike) : Prop :=
  (∀ record ∈ records, record.WellFormed) ∧
    ((records.filterMap credentials).length = 1 ∨
      (records.filterMap credentials).length = records.length)

instance : DecidablePred Unambiguous :=
  fun records => inferInstanceAs (Decidable ((∀ record ∈ records, record.WellFormed) ∧ (_ ∨ _)))

/-- What a record's entry of the result has to be. -/
structure Assigned (records : List MultiHostHostLike) (record : MultiHostHostLike)
    (parameters : ConnectionParameters) : Prop where
  address : record.host = some parameters.host ∧ record.port = some parameters.port
  own : ∀ pair, record.credentials = some pair → (parameters.login, parameters.passcode) = pair
  single : record.credentials = none →
    records.filterMap credentials = [(parameters.login, parameters.passcode)]
  defaults : parameters.wsUriPath = none ∧ parameters.connectHeaders = Foundation.Dict.empty

theorem filterMap_cons_toList {α β : Type} (f : α → Option β) (a : α) (l : List α) :
    (a :: l).filterMap f = (f a).toList ++ l.filterMap f := by
  cases h : f a with
  | none => simp [h]
  | some b => simp [h]

theorem address_of_wellFormed (hrecord : record.WellFormed) :
    ∃ address, record.address = some address := by
  obtain ⟨hhost, hport, -⟩ := hrecord
  obtain ⟨host, hhost⟩ := Option.isSome_iff_exists.mp hhost
  obtain ⟨port, hport⟩ := Option.isSome_iff_exists.mp hport
  exact ⟨(host, port), by simp [MultiHostHostLike.address, hhost, hport]⟩

/-- One pass succeeds on a well-formed record only, and appends what the record has. -/
theorem collectHost_eq_ok_iff {collected next : CollectedHosts} :
    collectHost collected record = .ok next ↔
      record.WellFormed ∧
        next = ⟨collected.allHosts ++ record.address.toList,
          collected.allCredentials ++ record.credentials.toList⟩ := by
  obtain ⟨username, password, host, port⟩ := record
  rw [eq_comm (a := next)]
  cases host <;> cases port <;> cases username <;> cases password <;>
    simp [collectHost, WellFormed, MultiHostHostLike.address, credentials]

/-- The loop keeps the two lists in the order of the records. -/
theorem collect_eq_ok_iff {collected last : CollectedHosts} :
    records.foldlM collectHost collected = .ok last ↔
      (∀ record ∈ records, record.WellFormed) ∧
        last = ⟨collected.allHosts ++ records.filterMap MultiHostHostLike.address,
          collected.allCredentials ++ records.filterMap credentials⟩ := by
  induction records generalizing collected with
  | nil => simp [pure, Except.pure, eq_comm]
  | cons record records ih =>
    have hsplit : (record :: records).foldlM collectHost collected = .ok last ↔
        ∃ next, collectHost collected record = .ok next ∧
          records.foldlM collectHost next = .ok last := by
      rw [List.foldlM_cons]
      cases collectHost collected record <;> simp [bind, Except.bind]
    rw [hsplit]
    simp only [collectHost_eq_ok_iff, ih]
    constructor
    · rintro ⟨next, ⟨hrecord, rfl⟩, hrecords, rfl⟩
      refine ⟨List.forall_mem_cons.mpr ⟨hrecord, hrecords⟩, ?_⟩
      simp only [filterMap_cons_toList, List.append_assoc]
    · rintro ⟨hrecords, rfl⟩
      obtain ⟨hrecord, hrecords⟩ := List.forall_mem_cons.mp hrecords
      refine ⟨_, ⟨hrecord, rfl⟩, hrecords, ?_⟩
      simp only [filterMap_cons_toList, List.append_assoc]

/-- Well-formed records have one address each. -/
theorem forall₂_address (hrecords : ∀ record ∈ records, record.WellFormed) :
    List.Forall₂ (fun record address => record.address = some address) records
      (records.filterMap MultiHostHostLike.address) := by
  induction records with
  | nil => exact .nil
  | cons record records ih =>
    obtain ⟨hrecord, hrecords⟩ := List.forall_mem_cons.mp hrecords
    obtain ⟨address, haddress⟩ := address_of_wellFormed hrecord
    rw [List.filterMap_cons_some haddress]
    exact .cons haddress (ih hrecords)

/-- As many pairs as records: every record has its own. -/
theorem forall₂_credentials
    (hcount : (records.filterMap credentials).length = records.length) :
    List.Forall₂ (fun record pair => record.credentials = some pair) records
      (records.filterMap credentials) := by
  induction records with
  | nil => exact .nil
  | cons record records ih =>
    cases hpair : record.credentials with
    | none =>
      rw [List.filterMap_cons_none hpair, List.length_cons] at hcount
      have hbound := List.length_filterMap_le credentials records
      omega
    | some pair =>
      rw [List.filterMap_cons_some hpair] at hcount ⊢
      exact .cons hpair (ih (by simpa using hcount))

theorem forall₂_zipWith {α β γ δ : Type} {P : α → β → Prop} {Q : α → γ → Prop}
    {R : α → δ → Prop} {f : β → γ → δ} (hjoin : ∀ a b c, P a b → Q a c → R a (f b c)) :
    ∀ {l : List α} {bs : List β} {cs : List γ}, List.Forall₂ P l bs → List.Forall₂ Q l cs →
      List.Forall₂ R l (List.zipWith f bs cs)
  | _, _, _, .nil, .nil => .nil
  | _, _, _, .cons hb hbs, .cons hc hcs =>
      .cons (hjoin _ _ _ hb hc) (forall₂_zipWith hjoin hbs hcs)

theorem address_eq_some_iff {address : String × Int} :
    record.address = some address ↔
      record.host = some address.1 ∧ record.port = some address.2 := by
  obtain ⟨username, password, host, port⟩ := record
  cases host <;> cases port <;> simp [MultiHostHostLike.address, Prod.ext_iff]

/-- Records that are not well formed are turned down. -/
theorem wellFormed_of_ok {servers : List ConnectionParameters}
    (hok : ConnectionParameters.fromPydanticMultihostHosts records = .ok servers) :
    (∀ record ∈ records, record.WellFormed) ∧
      assignCredentials ⟨records.filterMap MultiHostHostLike.address,
        records.filterMap credentials⟩ = .ok servers := by
  unfold ConnectionParameters.fromPydanticMultihostHosts at hok
  cases hcollect : records.foldlM collectHost ⟨[], []⟩ with
  | error error => simp [hcollect, Except.bind] at hok
  | ok collected =>
    obtain ⟨hrecords, rfl⟩ := collect_eq_ok_iff.mp hcollect
    rw [hcollect] at hok
    exact ⟨hrecords, hok⟩

theorem fromPydanticMultihostHosts_of_wellFormed
    (hrecords : ∀ record ∈ records, record.WellFormed) :
    ConnectionParameters.fromPydanticMultihostHosts records =
      assignCredentials ⟨records.filterMap MultiHostHostLike.address,
        records.filterMap credentials⟩ := by
  unfold ConnectionParameters.fromPydanticMultihostHosts
  rw [collect_eq_ok_iff.mpr ⟨hrecords, rfl⟩]
  rfl

/-- Every record with its own pair. -/
theorem assigned_of_all (hrecords : ∀ record ∈ records, record.WellFormed)
    (hcount : (records.filterMap credentials).length = records.length) :
    List.Forall₂ (fun record parameters => Assigned records record parameters ∧
        record.credentials = some (parameters.login, parameters.passcode)) records
      (List.zipWith .ofPair (records.filterMap MultiHostHostLike.address)
        (records.filterMap credentials)) := by
  refine forall₂_zipWith ?_ (forall₂_address hrecords) (forall₂_credentials hcount)
  intro record address pair haddress hpair
  refine ⟨⟨address_eq_some_iff.mp haddress, ?_, ?_, rfl, rfl⟩, hpair⟩
  · intro own hown
    exact Option.some.inj (hpair.symm.trans hown)
  · intro hnone
    rw [hpair] at hnone
    cases hnone

/-- A single pair for all the records. -/
theorem assigned_of_single {pair : String × String}
    (hrecords : ∀ record ∈ records, record.WellFormed)
    (hpair : records.filterMap credentials = [pair]) :
    List.Forall₂ (Assigned records) records
      ((records.filterMap MultiHostHostLike.address).map (.ofPair · pair)) := by
  rw [List.forall₂_map_right_iff]
  have hzip := List.forall₂_iff_zip.mp (forall₂_address hrecords)
  refine List.forall₂_iff_zip.mpr ⟨hzip.1, fun {record address} hmem => ?_⟩
  refine ⟨address_eq_some_iff.mp (hzip.2 hmem), ?_, fun _ => hpair, rfl, rfl⟩
  intro own hown
  have hown : own ∈ records.filterMap credentials :=
    List.mem_filterMap.mpr ⟨record, (List.of_mem_zip hmem).1, hown⟩
  rw [hpair, List.mem_singleton] at hown
  exact hown.symm

theorem length_address (hrecords : ∀ record ∈ records, record.WellFormed) :
    (records.filterMap MultiHostHostLike.address).length = records.length :=
  (forall₂_address hrecords).length_eq.symm

/-- The match on the count, over well-formed records. -/
theorem assignCredentials_ok (hrecords : ∀ record ∈ records, record.WellFormed)
    {servers : List ConnectionParameters}
    (hok : assignCredentials ⟨records.filterMap MultiHostHostLike.address,
      records.filterMap credentials⟩ = .ok servers) :
    (records.filterMap credentials).length = records.length ∧
        servers = List.zipWith .ofPair (records.filterMap MultiHostHostLike.address)
          (records.filterMap credentials) ∨
      ∃ pair, records.filterMap credentials = [pair] ∧
        servers = (records.filterMap MultiHostHostLike.address).map (.ofPair · pair) := by
  unfold assignCredentials at hok
  rw [length_address hrecords] at hok
  by_cases hcount : (records.filterMap credentials).length = records.length
  · rw [if_pos hcount] at hok
    exact .inl ⟨hcount, (Except.ok.inj hok).symm⟩
  · rw [if_neg hcount] at hok
    cases hpairs : records.filterMap credentials with
    | nil => simp [hpairs] at hok
    | cons pair rest =>
      cases rest with
      | nil =>
        rw [hpairs] at hok
        exact .inr ⟨pair, rfl, (Except.ok.inj hok).symm⟩
      | cons second rest => simp [hpairs] at hok

theorem exists_ok_iff :
    (∃ servers, ConnectionParameters.fromPydanticMultihostHosts records = .ok servers) ↔
      Unambiguous records := by
  constructor
  · rintro ⟨servers, hok⟩
    obtain ⟨hrecords, hassign⟩ := wellFormed_of_ok hok
    obtain ⟨hcount, -⟩ | ⟨pair, hpair, -⟩ := assignCredentials_ok hrecords hassign
    · exact ⟨hrecords, .inr hcount⟩
    · exact ⟨hrecords, .inl (by rw [hpair, List.length_singleton])⟩
  · rintro ⟨hrecords, hcount⟩
    rw [fromPydanticMultihostHosts_of_wellFormed hrecords]
    unfold assignCredentials
    rw [length_address hrecords]
    by_cases hall : (records.filterMap credentials).length = records.length
    · rw [if_pos hall]
      exact ⟨_, rfl⟩
    · rw [if_neg hall]
      obtain ⟨pair, hpair⟩ := List.length_eq_one_iff.mp (hcount.resolve_right hall)
      rw [hpair]
      exact ⟨_, rfl⟩

/-- The servers of a multi-host URL: which lists of records are accepted, and whose credentials
each server gets. -/
theorem fromPydanticMultihostHosts_assigns (records : List MultiHostHostLike) :
    ((∃ servers, ConnectionParameters.fromPydanticMultihostHosts records = .ok servers) ↔
        Unambiguous records) ∧
      (∀ servers, ConnectionParameters.fromPydanticMultihostHosts records = .ok servers →
        List.Forall₂ (Assigned records) records servers ∧
          ((records.filterMap credentials).length ≠ 1 →
            List.Forall₂ (fun record parameters =>
              record.credentials = some (parameters.login, parameters.passcode))
              records servers)) ∧
      (¬ Unambiguous records →
        ∃ error : ValueError,
          ConnectionParameters.fromPydanticMultihostHosts records = .error error) := by
  refine ⟨exists_ok_iff, ?_, ?_⟩
  · intro servers hok
    obtain ⟨hrecords, hassign⟩ := wellFormed_of_ok hok
    obtain ⟨hcount, rfl⟩ | ⟨pair, hpair, rfl⟩ := assignCredentials_ok hrecords hassign
    · have hassigned := assigned_of_all hrecords hcount
      exact ⟨hassigned.imp fun _ _ h => h.1, fun _ => hassigned.imp fun _ _ h => h.2⟩
    · refine ⟨assigned_of_single hrecords hpair, fun hcount => ?_⟩
      rw [hpair] at hcount
      exact absurd rfl hcount
  · intro hambiguous
    cases hresult : ConnectionParameters.fromPydanticMultihostHosts records with
    | error error => exact ⟨error, rfl⟩
    | ok servers => exact absurd (exists_ok_iff.mp ⟨servers, hresult⟩) hambiguous

end MultiHostHostLike

end Stompman
