import AddonAtlas.Proofs.Declaration.Values
import AddonAtlas.Proofs.Resource
import AddonAtlas.Proofs.Server.Refreshing

/-!
# Ways of browsing

A server shows its index in four ways : as a list of names, as a list of places for each name, and
as two listings, of all models and of one (`Browse`). Whatever has happened to the server, the
four describe one index (`Browse.Coherent`) : the listing of all models has one line for each name,
with the number of its places, and there is a listing of each of these models and of no other,
with one line for each place. The listing of all models tells everything it is made of : where two
servers show the same one, they show the same names with the same numbers of places
(`browsing_agrees`).

This rests on what an index is after any run, the grouping of the hits of one refresh, and on
identities having no newline.
-/

namespace AddonAtlas

/-- What a server shows of its index, in each of the four ways. -/
structure Browse where
  /-- The list of all models. -/
  names : List String
  /-- The declarations of a model. -/
  places : String → List Place
  /-- The listing of all models. -/
  overview : String
  /-- The listing of one model. -/
  page : String → Except Failure String

/-- The four ways describe one index with this many declarations. -/
structure Browse.Coherent (b : Browse) (size : Nat) : Prop where
  overview : Resource.lines b.overview =
    ["# Odoo Models", "Total models: " ++ toString b.names.length, ""] ++
      b.names.map (fun name => Resource.bullet name (b.places name).length) ++ [""]
  nodup : b.names.Nodup
  one_le : ∀ name ∈ b.names, 1 ≤ (b.places name).length
  sum : (b.names.map fun name => (b.places name).length).sum = size
  known : ∀ name, b.places name = [] ↔ name ∉ b.names
  notFound : ∀ name, b.places name = [] →
    b.page name = .error ⟨.value, "Model '" ++ name ++ "' not found"⟩
  page : ∀ name, b.places name ≠ [] → b.page name = .ok (Resource.page name (b.places name))
  page_lines : ∀ name, b.places name ≠ [] → (∀ place ∈ b.places name, '\n' ∉ place.path.toList) →
    Resource.lines (Resource.page name (b.places name)) =
      ["# Model: " ++ name, ""] ++ (b.places name).map Resource.placeBullet ++ [""]

namespace Floor

/-- A server answers those who browse like this. -/
structure Shows (f : Floor) (b : Browse) : Prop where
  names : f.answer? (.begin (.tool .listModels)) = some (.ok (.names b.names))
  places : ∀ name,
    f.answer? (.begin (.tool (.listDeclarations name))) = some (.ok (.places (b.places name)))
  overview : f.answer? (.begin (.tool .modelsListing)) = some (.ok (.text b.overview))
  page : ∀ name,
    f.answer? (.begin (.tool (.modelListing name))) = some ((b.page name).map .text)

end Floor

/-- What is shown of an index. -/
def ModelIndex.browse (x : ModelIndex) : Browse where
  names := x.identities
  places name := (x.declarations name).map .of
  overview := Resource.models x
  page := Resource.model x

theorem Floor.shows_browse (f : Floor) : f.Shows f.server.index.browse :=
  ⟨rfl, fun _ => rfl, rfl, fun _ => rfl⟩

namespace ModelIndex

theorem newline_notMem_identities (hs : List Hit) :
    ∀ identity ∈ (ofList (Hit.declared hs)).identities, '\n' ∉ identity.toList := by
  intro identity hidentity
  obtain ⟨d, hd, rfl⟩ := mem_identities_ofList.1 hidentity
  obtain ⟨h, -, rfl⟩ := List.mem_map.1 hd
  exact DeclarationPattern.newline_notMem_identity h

/-- What is shown of the grouping of hits is coherent. -/
theorem coherent_browse (hs : List Hit) :
    (ofList (Hit.declared hs)).browse.Coherent (ofList (Hit.declared hs)).size := by
  have hknown : ∀ name, (ofList (Hit.declared hs)).browse.places name = [] ↔
      name ∉ (ofList (Hit.declared hs)).identities := by
    intro name
    exact List.map_eq_nil_iff.trans declarations_ofList_eq_nil
  have hlength : ∀ name, ((ofList (Hit.declared hs)).browse.places name).length =
      ((ofList (Hit.declared hs)).declarations name).length := fun name => List.length_map _
  constructor
  case overview =>
    have hlines := Resource.lines_models (newline_notMem_identities hs)
    simp only [Resource.counts, List.map_map, Function.comp_def, ← hlength] at hlines
    exact hlines
  case nodup => exact nodup_identities_ofList _
  case one_le =>
    intro name hname
    have hne : (ofList (Hit.declared hs)).browse.places name ≠ [] := fun he =>
      (hknown name).1 he hname
    exact List.length_pos_iff.2 hne
  case sum =>
    simp only [hlength]
    exact sum_length_declarations _
  case known => exact hknown
  case notFound =>
    intro name hnone
    exact (Resource.model_eq _ name).trans (if_pos (List.map_eq_nil_iff.1 hnone))
  case page =>
    intro name hsome
    exact (Resource.model_eq _ name).trans (if_neg (mt List.map_eq_nil_iff.2 hsome))
  case page_lines =>
    intro name hsome hpaths
    have hname : name ∈ (ofList (Hit.declared hs)).identities :=
      Classical.not_not.1 (mt (hknown name).2 hsome)
    refine Resource.lines_page (newline_notMem_identities hs name hname) ?_
    intro d hd
    exact hpaths (.of d) (List.mem_map_of_mem hd)

/-- What can be told from the listing of all models of the groupings of hits. -/
theorem eq_of_models_eq {hs hs' : List Hit}
    (h : Resource.models (ofList (Hit.declared hs)) =
      Resource.models (ofList (Hit.declared hs'))) :
    (ofList (Hit.declared hs)).identities = (ofList (Hit.declared hs')).identities ∧
      ∀ name, ((ofList (Hit.declared hs)).declarations name).length =
        ((ofList (Hit.declared hs')).declarations name).length := by
  have hcounts := Resource.models_inj (newline_notMem_identities hs)
    (newline_notMem_identities hs') h
  have hnames : (ofList (Hit.declared hs)).identities =
      (ofList (Hit.declared hs')).identities := by
    have hfirst := congrArg (List.map Prod.fst) hcounts
    simpa [Resource.counts, Function.comp_def] using hfirst
  refine ⟨hnames, fun name => ?_⟩
  by_cases hname : name ∈ (ofList (Hit.declared hs)).identities
  · have hmem : (name, ((ofList (Hit.declared hs)).declarations name).length) ∈
        Resource.counts (ofList (Hit.declared hs')) := by
      rw [← hcounts]
      exact List.mem_map_of_mem hname
    obtain ⟨i, -, hi⟩ := List.mem_map.1 hmem
    obtain ⟨rfl, hlength⟩ := Prod.mk.inj hi
    exact hlength.symm
  · have hname' : name ∉ (ofList (Hit.declared hs')).identities := hnames ▸ hname
    rw [declarations_ofList_eq_nil.2 hname, declarations_ofList_eq_nil.2 hname']

end ModelIndex

theorem Floor.index_run_new (t : FileTree) (e : Environment) (source : ConfigSource)
    (scanner : Scanner) (es : List ServerEvent) :
    ((new t e source scanner).run es).server.index =
      .ofList (Hit.declared (((new t e source scanner).returned es).getLast?.getD [])) := by
  have hnew : (new t e source scanner).server.index.Groups (Hit.declared []) :=
    ModelIndex.groups_ofList []
  exact (groups_run hnew es).eq_ofList

/-- After any run of a new server the four ways of browsing describe one index, with as many
declarations as the last refresh that returned has had hits. If the listing of all models is the
same after two runs, be it of two servers, so are the names and the numbers of their places. -/
theorem Floor.browsing_agrees (t t' : FileTree) (e e' : Environment) (source source' : ConfigSource)
    (scanner scanner' : Scanner) (es es' : List ServerEvent) :
    let start := new t e source scanner
    let f := start.run es
    let f' := (new t' e' source' scanner').run es'
    ∃ b b', f.Shows b ∧ f'.Shows b' ∧ b.Coherent f.server.index.size ∧
      f.server.index.size = ((start.returned es).getLast?.getD []).length ∧
      (b.overview = b'.overview →
        b.names = b'.names ∧ ∀ name, (b.places name).length = (b'.places name).length) := by
  intro start f f'
  obtain ⟨hs, hhs⟩ : ∃ hs, hs = (start.returned es).getLast?.getD [] := ⟨_, rfl⟩
  have hindex : f.server.index = .ofList (Hit.declared hs) := by
    rw [hhs]
    exact index_run_new t e source scanner es
  obtain ⟨hs', hindex'⟩ : ∃ hs', f'.server.index = .ofList (Hit.declared hs') :=
    ⟨_, index_run_new t' e' source' scanner' es'⟩
  refine ⟨_, _, f.shows_browse, f'.shows_browse, ?_, ?_, ?_⟩
  · rw [hindex]
    exact ModelIndex.coherent_browse hs
  · rw [hindex, ModelIndex.size_ofList, ← hhs]
    exact List.length_map _
  · rw [hindex, hindex']
    intro hoverview
    obtain ⟨hnames, hlengths⟩ := ModelIndex.eq_of_models_eq hoverview
    refine ⟨hnames, fun name => ?_⟩
    have hplaces : ∀ x : ModelIndex, (x.browse.places name).length =
        (x.declarations name).length := fun x => List.length_map _
    rw [hplaces, hplaces]
    exact hlengths name

end AddonAtlas
