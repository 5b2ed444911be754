import Salgil.AuditReplay
import Salgil.Paging

namespace Salgil
set_option autoImplicit true

/-- A filter of a query; without a text it lets everything through. -/
def passes (filter : Option String) (value : String) : Bool :=
  filter.all fun text => text = "" ∨ value = text

section
variable {K : Type}

/-- One page of the incidents, the newest first, and how many there are in all; `order` is the way
in which the database puts them. -/
def Incidents.listIncidents (order : List Incident → List Incident) (db : Database K)
    (status regionCode : Option String) (limit offset : ℕ) : List Incident × ℕ :=
  let rows := db.incidents.filter fun incident =>
    passes status incident.status.value && passes regionCode incident.regionCode
  (page limit offset (order rows), rows.length)

/-- One page of the communities by name, and how many there are in all. -/
def Communities.listCommunities (order : List (Community K) → List (Community K))
    (db : Database K) (regionCode : Option String) (limit offset : ℕ) : List (Community K) × ℕ :=
  let rows := db.communities.filter fun community => passes regionCode community.regionCode
  (page limit offset (order rows), rows.length)

/-- What no change of an incident touches. -/
def Incident.mark (incident : Incident) : Uuid × Timestamp × String :=
  (incident.id, incident.declaredAt, incident.regionCode)

/-- Incidents, communities and shelters come in and stay. -/
structure RegistersGrow (db db' : Database K) : Prop where
  incidents : db.incidents.map (·.mark) <+: db'.incidents.map (·.mark)
  communities : db.communities <+: db'.communities
  shelters : db.shelters <+: db'.shelters

/-- The states in which the pages are read: between two of them some operations are performed. -/
def between (db : Database K) (batches : ℕ → List (Entry K)) : ℕ → Database K
  | 0 => db
  | k + 1 => runEntries (between db batches k) (batches k)

variable {db db₁ db' : Database K} {entry : Entry K}

theorem RegistersGrow.refl (db : Database K) : RegistersGrow db db :=
  ⟨List.prefix_rfl, List.prefix_rfl, List.prefix_rfl⟩

theorem RegistersGrow.trans (h : RegistersGrow db db₁) (h' : RegistersGrow db₁ db') :
    RegistersGrow db db' :=
  ⟨h.incidents.trans h'.incidents, h.communities.trans h'.communities,
    h.shelters.trans h'.shelters⟩

theorem RegistersGrow.of_same (hincidents : db'.incidents = db.incidents)
    (hcommunities : db'.communities = db.communities) (hshelters : db'.shelters = db.shelters) :
    RegistersGrow db db' :=
  ⟨hincidents ▸ List.prefix_rfl, hcommunities ▸ List.prefix_rfl, hshelters ▸ List.prefix_rfl⟩

theorem Call.handle_registers {call : Call K} (h : call.handle db = .ok db') :
    RegistersGrow db db' := by
  cases Call.handled h with
  | createPlan _ _ _ _ _ hcreate =>
    rw [(Planning.create_eq_ok hcreate).2.1]
    exact .of_same rfl rfl rfl
  | approvePlan _ _ _ _ happrove =>
    obtain ⟨plan, summary, -, -, -, rfl⟩ := Planning.approve_eq_ok happrove
    exact .of_same rfl rfl rfl
  | startContacts _ _ _ _ _ hstart =>
    obtain ⟨plan, summary, -, -, -, rfl⟩ := Contacts.startRound_eq_ok hstart
    exact .of_same rfl rfl rfl
  | updateContact _ _ _ _ hupdate =>
    obtain ⟨row, summary, -, rfl⟩ := Contacts.update_eq_ok hupdate
    exact .of_same rfl rfl rfl
  | createTask _ _ _ _ _ hcreate =>
    obtain ⟨summary, -, rfl⟩ := Tasks.create_eq_ok hcreate
    exact .of_same rfl rfl rfl
  | generateTasks incident _ _ hdb' =>
    subst hdb'
    rcases Tasks.createFromUnreachable_cases db call.now call.actor incident with
      heq | ⟨tasks, summary, -, heq⟩
    · rw [heq]
      exact .refl db
    · rw [heq]
      exact .of_same rfl rfl rfl
  | updateTask _ _ _ _ hupdate =>
    obtain ⟨task, summary, -, rfl | rfl⟩ := Tasks.update_eq_ok hupdate
    · exact .refl _
    · exact .of_same rfl rfl rfl
  | submitReport _ _ _ _ hsubmit =>
    obtain ⟨task, row, reason, summary, replan, -, -, -, -, hkeeps, -, rfl⟩ :=
      Tasks.submitReport_eq_ok hsubmit
    have hsame : replan.2.incidents = db.incidents ∧ replan.2.communities = db.communities ∧
        replan.2.shelters = db.shelters := by
      rw [hkeeps]
      exact ⟨rfl, rfl, rfl⟩
    exact .of_same hsame.1 hsame.2.1 hsame.2.2

theorem Entry.handle_registers (h : entry.handle db = .ok db') : RegistersGrow db db' := by
  cases Entry.handled h with
  | workflow _ _ hok => exact Call.handle_registers hok
  | declared _ _ _ incident _ _ hcreate =>
    obtain ⟨-, -, -, -, -, -, hdb, -⟩ := Incidents.create_eq_ok hcreate
    rw [hdb]
    refine ⟨?_, List.prefix_rfl, List.prefix_rfl⟩
    rw [List.map_append]
    exact List.prefix_append _ _
  | updated _ payload _ _ hupdate =>
    obtain ⟨target, summary, -, rfl | rfl⟩ := Incidents.update_eq_ok hupdate
    · exact .refl _
    · have hmarks : (db.incidents.map fun incident => if incident.id = target.id then
          Incidents.changed (Incidents.changes payload target) entry.now entry.actor incident
          else incident).map (·.mark) = db.incidents.map (·.mark) := by
        rw [List.map_map]
        refine List.map_congr_left fun incident _ => ?_
        simp only [Function.comp_apply]
        split <;> rfl
      exact ⟨hmarks ▸ List.prefix_rfl, List.prefix_rfl, List.prefix_rfl⟩
  | declined _ hdb =>
    subst hdb
    exact .refl _
  | community payload _ hdb =>
    subst hdb
    exact ⟨List.prefix_rfl, List.prefix_append _ _, List.prefix_rfl⟩
  | shelter payload _ hdb =>
    subst hdb
    exact ⟨List.prefix_rfl, List.prefix_rfl, List.prefix_append _ _⟩

theorem perform_registers (db : Database K) (entry : Entry K) :
    RegistersGrow db (perform db entry) := by
  unfold perform
  split
  · next h => exact Entry.handle_registers h
  · exact .refl db

theorem runEntries_registers (db : Database K) (entries : List (Entry K)) :
    RegistersGrow db (runEntries db entries) := by
  induction entries generalizing db with
  | nil => exact .refl db
  | cons entry entries ih => exact (perform_registers db entry).trans (ih (perform db entry))

theorem between_registers (db : Database K) (batches : ℕ → List (Entry K)) {j k : ℕ}
    (hjk : j ≤ k) : RegistersGrow (between db batches j) (between db batches k) := by
  induction k, hjk using Nat.le_induction with
  | base => exact .refl _
  | succ k _ ih => exact ih.trans (runEntries_registers _ (batches k))

/-- What a reader sees of the incidents of a region: the pages from the start on, each from the
state of its time. -/
def incidentPage (order : ℕ → List Incident → List Incident) (db : Database K)
    (batches : ℕ → List (Entry K)) (regionCode : Option String) (limit k : ℕ) :
    List Incident × ℕ :=
  Incidents.listIncidents (order k) (between db batches k) none regionCode limit (k * limit)

def communityPage (order : ℕ → List (Community K) → List (Community K)) (db : Database K)
    (batches : ℕ → List (Entry K)) (regionCode : Option String) (limit k : ℕ) :
    List (Community K) × ℕ :=
  Communities.listCommunities (order k) (between db batches k) regionCode limit (k * limit)

theorem mem_page {α : Type} {limit offset : ℕ} {rows : List α} {x : α}
    (h : x ∈ page limit offset rows) : x ∈ rows :=
  List.drop_subset _ _ (List.take_subset _ _ h)

theorem filter_sublist {α κ : Type} {mark : α → κ} {rows rows' : List α} (p : κ → Bool)
    (h : rows.map mark <+: rows'.map mark) :
    ((rows.filter fun row => p (mark row)).map mark).Sublist
      ((rows'.filter fun row => p (mark row)).map mark) := by
  have hfilter : ∀ l : List α,
      (l.filter fun row => p (mark row)).map mark = (l.map mark).filter p := by
    intro l
    rw [List.filter_map]
    rfl
  rw [hfilter, hfilter]
  exact h.sublist.filter p

section
variable {order : ℕ → List Incident → List Incident} {batches : ℕ → List (Entry K)}
variable {regionCode : Option String} {limit n : ℕ}

/-- The incidents of a region at the time of a page. -/
def incidentRows (db : Database K) (batches : ℕ → List (Entry K)) (regionCode : Option String)
    (k : ℕ) : List Incident :=
  (between db batches k).incidents.filter fun incident =>
    passes none incident.status.value && passes regionCode incident.regionCode

theorem incidentRows_sublist (db : Database K) (batches : ℕ → List (Entry K))
    (regionCode : Option String) (k : ℕ) :
    ((incidentRows db batches regionCode k).map (·.declaredAt)).Sublist
      ((incidentRows db batches regionCode (k + 1)).map (·.declaredAt)) := by
  have hmarks := filter_sublist (fun mark => passes regionCode mark.2.2)
    (between_registers db batches k.le_succ).incidents
  have htimes := hmarks.map fun mark => mark.2.1
  rw [List.map_map, List.map_map] at htimes
  exact htimes

/-- Whoever reads the pages of the incidents to their end sees each that was there at the start,
whatever is declared or changed in between, if no two were declared at one instant. -/
theorem incident_seen (horder : ∀ k, OrdersBy (· ≥ ·) (·.declaredAt) (order k)) {db : Database K}
    (hclock : ((between db batches n).incidents.map (·.declaredAt)).Nodup)
    (hend : (incidentPage order db batches regionCode limit n).2 ≤ (n + 1) * limit)
    {incident : Incident} (hincident : incident ∈ db.incidents)
    (hpasses : passes regionCode incident.regionCode) :
    ∃ k ≤ n, ∃ row ∈ (incidentPage order db batches regionCode limit k).1,
      row.id = incident.id := by
  have hfirst : incident ∈ incidentRows db batches regionCode 0 :=
    List.mem_filter.2 ⟨hincident, hpasses⟩
  obtain ⟨k, hk, row, hrow, htime⟩ :=
    pages_skip_nothing horder (incidentRows_sublist db batches regionCode) hend hfirst
  refine ⟨k, hk, row, hrow, ?_⟩
  -- at the end both have their marks in the table, and one time is of one incident
  have hkept : ∀ j ≤ n, ∀ other ∈ (between db batches j).incidents,
      other.mark ∈ (between db batches n).incidents.map (·.mark) := fun j hj other hother =>
    (between_registers db batches hj).incidents.subset (List.mem_map_of_mem hother)
  have hmem : row ∈ (between db batches k).incidents :=
    (List.mem_filter.1 ((horder k _).1.mem_iff.1 (mem_page hrow))).1
  have hmarks : (((between db batches n).incidents.map (·.mark)).map (·.2.1)).Nodup := by
    rw [List.map_map]
    exact hclock
  exact congrArg Prod.fst (List.inj_on_of_nodup_map hmarks (hkept k hk row hmem)
    (hkept 0 n.zero_le incident hincident) htime)

/-- The incidents that the pages have shown, one page after the other. -/
def incidentsSeen (order : ℕ → List Incident → List Incident) (db : Database K)
    (batches : ℕ → List (Entry K)) (regionCode : Option String) (limit n : ℕ) : List Incident :=
  (List.range (n + 1)).flatMap fun k => (incidentPage order db batches regionCode limit k).1

/-- The incidents of the region that were there at the start. -/
def incidentsOf (db : Database K) (regionCode : Option String) : List Incident :=
  db.incidents.filter fun incident => passes regionCode incident.regionCode

/-- What the pages show where nothing is declared in between: the newest first, as many of each
instant as there are, and each once where no two were declared at one instant. -/
structure ShownOnce (rows region : List Incident) : Prop where
  newestFirst : (rows.map (·.declaredAt)).Pairwise (· ≥ ·)
  times : (rows.map (·.declaredAt)).Perm (region.map (·.declaredAt))
  once : (region.map (·.declaredAt)).Nodup → (rows.map (·.id)).Perm (region.map (·.id))

theorem perm_of_perm_map {α κ : Type} (key : α → κ) {rows rows' : List α}
    (h : (rows.map key).Perm (rows'.map key)) (hsub : rows ⊆ rows')
    (hkeys : (rows'.map key).Nodup) : rows.Perm rows' := by
  have hnodup : rows.Nodup := (h.nodup_iff.2 hkeys).of_map
  have hlength : rows'.length ≤ rows.length := by
    have hle := h.length_eq.ge
    rwa [List.length_map, List.length_map] at hle
  exact (List.subperm_of_subset hnodup hsub).perm_of_length_le hlength

theorem marks_quiet {db : Database K}
    (hquiet : (between db batches n).incidents.length = db.incidents.length) :
    ∀ k ≤ n, (between db batches k).incidents.map (·.mark) = db.incidents.map (·.mark) := by
  intro k hk
  have hbefore := (between_registers db batches k.zero_le).incidents
  have hafter := (between_registers db batches hk).incidents.length_le
  rw [List.length_map, List.length_map, hquiet] at hafter
  refine (hbefore.eq_of_length_le ?_).symm
  rw [List.length_map, List.length_map]
  exact hafter

theorem incidentRows_marks (db : Database K) (batches : ℕ → List (Entry K))
    (regionCode : Option String) (k : ℕ) : (incidentRows db batches regionCode k).map (·.mark) =
      ((between db batches k).incidents.map (·.mark)).filter
        fun mark => passes regionCode mark.2.2 := by
  rw [List.filter_map]
  rfl

theorem incidents_once (horder : ∀ k, OrdersBy (· ≥ ·) (·.declaredAt) (order k)) {db : Database K}
    (hquiet : (between db batches n).incidents.length = db.incidents.length)
    (hend : (incidentPage order db batches regionCode limit n).2 ≤ (n + 1) * limit) :
    ShownOnce (incidentsSeen order db batches regionCode limit n) (incidentsOf db regionCode) := by
  have hrows : ∀ k ≤ n, (incidentRows db batches regionCode k).map (·.mark) =
      (incidentsOf db regionCode).map (·.mark) := by
    intro k hk
    rw [incidentRows_marks, marks_quiet hquiet k hk, List.filter_map]
    rfl
  have hsame : ∀ k ≤ n, ((incidentRows db batches regionCode k).map (·.declaredAt)).Perm
      ((incidentRows db batches regionCode 0).map (·.declaredAt)) := by
    intro k hk
    have htimes := congrArg (List.map fun mark => mark.2.1) ((hrows k hk).trans
      (hrows 0 n.zero_le).symm)
    rw [List.map_map, List.map_map] at htimes
    exact .of_eq htimes
  have hpages : (incidentsSeen order db batches regionCode limit n).map (·.declaredAt) =
      (order 0 (incidentRows db batches regionCode 0)).map (·.declaredAt) := by
    rw [incidentsSeen, List.map_flatMap]
    exact flatten_order_pages horder hsame hend
  have hperm : ((incidentsSeen order db batches regionCode limit n).map (·.declaredAt)).Perm
      ((incidentsOf db regionCode).map (·.declaredAt)) := by
    rw [hpages]
    exact (horder 0 _).1.map _
  refine ⟨?_, hperm, fun hclock => ?_⟩
  · rw [hpages]
    exact (horder 0 _).2
  · -- every row that is shown has the mark of one that was there
    have hsub : (incidentsSeen order db batches regionCode limit n).map (·.mark) ⊆
        (incidentsOf db regionCode).map (·.mark) := by
      intro mark hmark
      obtain ⟨row, hrow, rfl⟩ := List.mem_map.1 hmark
      obtain ⟨k, hk, hrow⟩ := List.mem_flatMap.1 hrow
      rw [← hrows k (Nat.lt_succ_iff.1 (List.mem_range.1 hk))]
      exact List.mem_map_of_mem ((horder k _).1.mem_iff.1 (mem_page hrow))
    have hmarks := perm_of_perm_map (fun mark => mark.2.1)
      (by rwa [List.map_map, List.map_map]) hsub (by rwa [List.map_map])
    have hids := hmarks.map fun mark => mark.1
    rwa [List.map_map, List.map_map] at hids

theorem community_seen {collates : String → String → Prop} [Std.Antisymm collates]
    {order : ℕ → List (Community K) → List (Community K)}
    (horder : ∀ k, OrdersBy collates (·.name) (order k)) {db : Database K}
    (hnames : (((between db batches n).communities.filter fun community =>
      passes regionCode community.regionCode).map (·.name)).Nodup)
    (hend : (communityPage order db batches regionCode limit n).2 ≤ (n + 1) * limit)
    {community : Community K} (hcommunity : community ∈ db.communities)
    (hpasses : passes regionCode community.regionCode) :
    ∃ k ≤ n, community ∈ (communityPage order db batches regionCode limit k).1 := by
  let rows := fun k => (between db batches k).communities.filter fun community =>
    passes regionCode community.regionCode
  have hrows : ∀ j k, j ≤ k → (rows j).Sublist (rows k) := fun j k hjk =>
    (between_registers db batches hjk).communities.sublist.filter _
  have hfirst : community ∈ rows 0 := List.mem_filter.2 ⟨hcommunity, hpasses⟩
  obtain ⟨k, hk, row, hrow, hname⟩ := pages_skip_nothing horder
    (fun k => (hrows k (k + 1) k.le_succ).map _) hend hfirst
  have hmem : row ∈ rows k := (horder k _).1.mem_iff.1 (mem_page hrow)
  have hsame : row = community := List.inj_on_of_nodup_map hnames ((hrows k n hk).subset hmem)
    ((hrows 0 n n.zero_le).subset hfirst) hname
  exact ⟨k, hk, hsame ▸ hrow⟩

/-- Reading a list page by page to its end, while the service goes on, skips nothing that was there
at the start, if no two incidents were declared at one instant and no two communities go by one
name; and where nothing was declared, the incidents are shown once. -/
theorem listings_complete {collates : String → String → Prop} [Std.Antisymm collates]
    {communityOrder : ℕ → List (Community K) → List (Community K)}
    (hincidents : ∀ k, OrdersBy (· ≥ ·) (·.declaredAt) (order k))
    (hcommunities : ∀ k, OrdersBy collates (·.name) (communityOrder k)) (db : Database K)
    (batches : ℕ → List (Entry K)) (regionCode : Option String) (limit n : ℕ) :
    ((incidentPage order db batches regionCode limit n).2 ≤ (n + 1) * limit →
      (((between db batches n).incidents.map (·.declaredAt)).Nodup →
        ∀ incident ∈ db.incidents, passes regionCode incident.regionCode →
          ∃ k ≤ n, ∃ row ∈ (incidentPage order db batches regionCode limit k).1,
            row.id = incident.id) ∧
      ((between db batches n).incidents.length = db.incidents.length →
        ShownOnce (incidentsSeen order db batches regionCode limit n)
          (incidentsOf db regionCode))) ∧
    ((communityPage communityOrder db batches regionCode limit n).2 ≤ (n + 1) * limit →
      (((between db batches n).communities.filter fun community =>
        passes regionCode community.regionCode).map (·.name)).Nodup →
      ∀ community ∈ db.communities, passes regionCode community.regionCode →
        ∃ k ≤ n, community ∈ (communityPage communityOrder db batches regionCode limit k).1) :=
  ⟨fun hend => ⟨fun hclock _ hincident hpasses => incident_seen hincidents hclock hend hincident
      hpasses, fun hquiet => incidents_once hincidents hquiet hend⟩,
    fun hend hnames _ hcommunity hpasses => community_seen hcommunities hnames hend hcommunity
      hpasses⟩

end

end

def newestFirst : List Incident → List Incident :=
  List.insertionSort fun a b => a.declaredAt ≥ b.declaredAt

def byName : List (Community ℚ) → List (Community ℚ) :=
  List.insertionSort fun a b => a.name ≤ b.name

/-- A fire is declared at each of these times. -/
def firesAt (times : List Timestamp) : List (Entry ℚ) :=
  times.map fun time => ⟨"operator", time, .declareIncident none fire⟩

/-- Of three fires two are read, then a fourth one is declared, and two more are read; the three are
shown once where it is not. -/
theorem listings_complete_fourth_fire :
    (incidentPage (fun _ => newestFirst) (runEntries quietVillage (firesAt [10, 20, 30]))
      (fun _ => firesAt [40]) none 2 1).1.map (·.declaredAt) = [20, 10] ∧
    (∀ incident ∈ (runEntries quietVillage (firesAt [10, 20, 30])).incidents, ∃ k ≤ 1,
      ∃ row ∈ (incidentPage (fun _ => newestFirst) (runEntries quietVillage (firesAt [10, 20, 30]))
        (fun _ => firesAt [40]) none 2 k).1, row.id = incident.id) ∧
    ShownOnce (incidentsSeen (fun _ => newestFirst)
      (runEntries quietVillage (firesAt [10, 20, 30])) (fun _ => []) none 2 1)
      (incidentsOf (runEntries quietVillage (firesAt [10, 20, 30])) none) := by
  have hcomplete := fun batches =>
    listings_complete (fun _ => ordersBy_insertionSort (· ≥ ·) Incident.declaredAt)
      (fun _ => ordersBy_insertionSort (· ≤ ·) Community.name)
      (runEntries quietVillage (firesAt [10, 20, 30])) batches none 2 1
  refine ⟨by decide +kernel, fun incident hincident => ?_, ?_⟩
  · exact ((hcomplete fun _ => firesAt [40]).1 (by decide +kernel)).1 (by decide +kernel) incident
      hincident rfl
  · exact ((hcomplete fun _ => []).1 (by decide +kernel)).2 (by decide +kernel)

end Salgil
