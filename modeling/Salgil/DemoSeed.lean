import Salgil.Listings
import Mathlib.Data.Rat.Cast.Defs

namespace Salgil
set_option autoImplicit true

namespace Seed

def regionCode : String := "47750"

/-- The hazards of the shelters that stand in all weathers. -/
def allWeather : List String := ["heavy_rain", "flood", "landslide", "wildfire", "typhoon"]

/-- A village of the demonstration; all of them are synthetic. -/
structure CommunityEntry (K : Type) where
  name : String
  households : ℕ
  lat : K
  lon : K

structure ShelterEntry (K : Type) where
  name : String
  lat : K
  lon : K
  capacity : ℤ
  hazards : List String

/-- What the command prints. -/
structure Counts where
  communities : ℕ
  shelters : ℕ
  skipped : ℕ
  deriving DecidableEq, Repr

section
variable {K : Type} [DivisionRing K]

def communities : List (CommunityEntry K) :=
  [⟨"상촌리", 21, 36.3921, 129.1607⟩, ⟨"월외리", 16, 36.4102, 129.1839⟩,
    ⟨"부남면 소재지", 9, 36.3238, 129.0864⟩, ⟨"주왕산면 상의리", 6, 36.3946, 129.1802⟩]

def shelters : List (ShelterEntry K) :=
  [⟨"진보체육관", 36.4361, 129.0451, 320, allWeather⟩,
    ⟨"부남면사무소", 36.3241, 129.0871, 80, allWeather⟩,
    ⟨"주왕산 탐방안내소", 36.3928, 129.1785, 60, ["heavy_rain", "flood", "typhoon"]⟩]

end

section
variable {K : Type}

def CommunityEntry.row (entry : CommunityEntry K) (id : Uuid) : Community K where
  id := id
  regionCode := Seed.regionCode
  name := entry.name
  households := some (entry.households : ℤ)
  lat := some entry.lat
  lon := some entry.lon
  dataMode := "synthetic"

def ShelterEntry.row (entry : ShelterEntry K) (id : Uuid) : Shelter K where
  id := id
  regionCode := Seed.regionCode
  name := entry.name
  lat := some entry.lat
  lon := some entry.lon
  capacity := some entry.capacity
  capacityBasis := some "demo"
  hazards := entry.hazards

/-- A village of the name is in the table. -/
def hasCommunity (db : Database K) (name : String) : Bool :=
  db.communities.any fun row => row.regionCode = regionCode ∧ row.name = name

def hasShelter (db : Database K) (name : String) : Bool :=
  db.shelters.any fun row => row.regionCode = regionCode ∧ row.name = name

/-- The queries see the rows from before: the new ones are flushed together at the end. -/
def seedDemo [DivisionRing K] (db : Database K) : Database K × Counts :=
  let newCommunities := (communities (K := K)).filter fun entry => !hasCommunity db entry.name
  let newShelters := (shelters (K := K)).filter fun entry => !hasShelter db entry.name
  ({ db with
    communities := db.communities ++
      newCommunities.mapIdx fun index entry => entry.row (db.nextId + index)
    shelters := db.shelters ++ newShelters.mapIdx fun index entry =>
      entry.row (db.nextId + newCommunities.length + index)
    nextId := db.nextId + newCommunities.length + newShelters.length },
    { communities := newCommunities.length
      shelters := newShelters.length
      skipped := (communities (K := K)).length - newCommunities.length +
        ((shelters (K := K)).length - newShelters.length) })

variable {db db' : Database K}

theorem hasCommunity_grow (h : RegistersGrow db db') {name : String}
    (hname : hasCommunity db name) : hasCommunity db' name := by
  obtain ⟨row, hrow, hmatch⟩ := List.any_eq_true.1 hname
  exact List.any_eq_true.2 ⟨row, h.communities.subset hrow, hmatch⟩

theorem hasShelter_grow (h : RegistersGrow db db') {name : String} (hname : hasShelter db name) :
    hasShelter db' name := by
  obtain ⟨row, hrow, hmatch⟩ := List.any_eq_true.1 hname
  exact List.any_eq_true.2 ⟨row, h.shelters.subset hrow, hmatch⟩

variable [DivisionRing K]

theorem seedDemo_registers (db : Database K) : RegistersGrow db (seedDemo db).1 :=
  ⟨List.prefix_rfl, List.prefix_append _ _, List.prefix_append _ _⟩

theorem seedDemo_community (db : Database K) {entry : CommunityEntry K}
    (hentry : entry ∈ communities) : hasCommunity (seedDemo db).1 entry.name := by
  by_cases hold : hasCommunity db entry.name
  · exact hasCommunity_grow (seedDemo_registers db) hold
  · have hnew : entry ∈ (communities (K := K)).filter fun entry => !hasCommunity db entry.name :=
      List.mem_filter.2 ⟨hentry, by simpa using hold⟩
    obtain ⟨i, hi, rfl⟩ := List.mem_iff_getElem.1 hnew
    refine List.any_eq_true.2 ⟨_, List.mem_append_right _ (List.mem_mapIdx.2 ⟨i, hi, rfl⟩), ?_⟩
    exact decide_eq_true ⟨rfl, rfl⟩

theorem seedDemo_shelter (db : Database K) {entry : ShelterEntry K} (hentry : entry ∈ shelters) :
    hasShelter (seedDemo db).1 entry.name := by
  by_cases hold : hasShelter db entry.name
  · exact hasShelter_grow (seedDemo_registers db) hold
  · have hnew : entry ∈ (shelters (K := K)).filter fun entry => !hasShelter db entry.name :=
      List.mem_filter.2 ⟨hentry, by simpa using hold⟩
    obtain ⟨i, hi, rfl⟩ := List.mem_iff_getElem.1 hnew
    refine List.any_eq_true.2 ⟨_, List.mem_append_right _ (List.mem_mapIdx.2 ⟨i, hi, rfl⟩), ?_⟩
    exact decide_eq_true ⟨rfl, rfl⟩

/-- Where every village and every shelter is in the tables, nothing is added. -/
theorem seedDemo_settled
    (hcommunities : ∀ entry ∈ communities (K := K), hasCommunity db entry.name)
    (hshelters : ∀ entry ∈ shelters (K := K), hasShelter db entry.name) :
    seedDemo db = (db, ⟨0, 0, 7⟩) := by
  have hnoCommunity : (communities (K := K)).filter (fun entry => !hasCommunity db entry.name) =
      [] := List.filter_eq_nil_iff.2 fun entry hentry => by simp [hcommunities entry hentry]
  have hnoShelter : (shelters (K := K)).filter (fun entry => !hasShelter db entry.name) =
      [] := List.filter_eq_nil_iff.2 fun entry hentry => by simp [hshelters entry hentry]
  rw [seedDemo, hnoCommunity, hnoShelter]
  simp [communities, shelters]

theorem seedDemo_adds {row : Community K} (hrow : row ∈ (seedDemo db).1.communities) :
    row ∈ db.communities ∨ row.dataMode = "synthetic" ∧ row.regionCode = regionCode ∧
      hasCommunity db row.name = false := by
  rcases List.mem_append.1 hrow with hold | hnew
  · exact .inl hold
  · obtain ⟨i, hi, rfl⟩ := List.mem_mapIdx.1 hnew
    have hmissing := (List.mem_filter.1 (List.getElem_mem hi)).2
    exact .inr ⟨rfl, rfl, by simpa [CommunityEntry.row] using hmissing⟩

end

end Seed

/-- The demonstration is seeded once: what was there stays, what is added is synthetic and in the
place of nothing, and whatever the service does then, seeding again adds nothing. -/
theorem seed_settles {K : Type} [DivisionRing K] (db : Database K) (entries : List (Entry K)) :
    RegistersGrow db (Seed.seedDemo db).1 ∧
    (∀ row ∈ (Seed.seedDemo db).1.communities, row ∈ db.communities ∨
      row.dataMode = "synthetic" ∧ row.regionCode = Seed.regionCode ∧
        Seed.hasCommunity db row.name = false) ∧
    Seed.seedDemo (runEntries (Seed.seedDemo db).1 entries) =
      (runEntries (Seed.seedDemo db).1 entries, ⟨0, 0, 7⟩) := by
  refine ⟨Seed.seedDemo_registers db, fun row hrow => Seed.seedDemo_adds hrow, ?_⟩
  have hgrow := runEntries_registers (Seed.seedDemo db).1 entries
  exact Seed.seedDemo_settled
    (fun entry hentry => Seed.hasCommunity_grow hgrow (Seed.seedDemo_community db hentry))
    (fun entry hentry => Seed.hasShelter_grow hgrow (Seed.seedDemo_shelter db hentry))

/-- A village of the county that is registered already is left out. -/
example : ((Seed.seedDemo quietVillage).2, (Seed.seedDemo quietVillage).1.communities.length) =
    (⟨3, 3, 1⟩, 4) := by decide +kernel

end Salgil
