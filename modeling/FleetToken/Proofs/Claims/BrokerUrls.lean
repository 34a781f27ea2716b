import FleetToken.Proofs.Claims.Building
import FleetToken.Proofs.Text.Blank
import FleetToken.Proofs.Text.Pieces

/-!
# Broker URLs in one text

Provisioning claims carry all their URLs in one text with commas between them, and consumers read
them from it again. What is read is what each argument of the builder holds for itself: one URL, if
it has no commas in it and no blanks around it, and otherwise the URLs between its commas. A list of
URLs that has been read once stays the same from then on.

## Main definitions

* `Text.brokerUrls`: the URLs in a text.
* `Text.IsBrokerUrl`: a text that is read as one URL.

## Main results

* `Text.brokerUrls_join`: joined texts hold the URLs of each text.
* `Text.flatMap_brokerUrls_eq_self_iff`: the lists of URLs that stay as they are.
* `ProvisioningClaims.urlList_joined`: the URLs of built claims, and those of all claims when they
  are joined again.
-/

namespace FleetToken

namespace Text

variable {t url : Text} {parts : List Text}

/-- The URLs in a text: the pieces between its commas, trimmed, without those of which nothing is
left. -/
def brokerUrls (t : Text) : List Text :=
  ((split (CodePoint.ofChar ',') t).map trim).filter (· ≠ [])

/-- A text that is read as one URL. -/
structure IsBrokerUrl (t : Text) : Prop where
  /-- Something stands in it. -/
  ne_nil : t ≠ []
  /-- No comma divides it. -/
  comma_notMem : CodePoint.ofChar ',' ∉ t
  /-- It does not begin with a blank. -/
  not_isBlank_head : ∀ c ∈ t.head?, c.isBlank = false
  /-- It does not end with a blank. -/
  not_isBlank_last : ∀ c ∈ t.getLast?, c.isBlank = false

theorem brokerUrls_nil : brokerUrls [] = [] := rfl

/-- A text that is one broker URL lists itself. -/
theorem brokerUrls_of_isBrokerUrl (h : t.IsBrokerUrl) : t.brokerUrls = [t] := by
  have htrim : trim t = t := trimBy_eq_self_iff.mpr ⟨h.not_isBlank_head, h.not_isBlank_last⟩
  rw [brokerUrls, split_of_notMem h.comma_notMem, List.map_singleton, htrim]
  simp [h.ne_nil]

/-- All that is read as a URL would be read as this URL again. -/
theorem isBrokerUrl_of_mem_brokerUrls (h : url ∈ t.brokerUrls) : url.IsBrokerUrl := by
  simp only [brokerUrls, List.mem_filter, List.mem_map, decide_eq_true_eq] at h
  obtain ⟨⟨piece, hpiece, rfl⟩, hne⟩ := h
  obtain ⟨hhead, hlast⟩ := trimBy_eq_self_iff.mp (trimBy_trimBy CodePoint.isBlank piece)
  refine ⟨hne, fun hcomma => ?_, hhead, hlast⟩
  exact notMem_of_mem_split hpiece (mem_of_mem_trimStartBy (mem_of_mem_trimEndBy hcomma))

/-- Joined texts hold the URLs of each text, one text after another. -/
theorem brokerUrls_join (parts : List Text) :
    (join (CodePoint.ofChar ',') parts).brokerUrls = parts.flatMap brokerUrls := by
  by_cases hparts : parts = []
  · rw [hparts, join, brokerUrls_nil, List.flatMap_nil]
  · rw [brokerUrls, split_join hparts, List.map_flatMap, List.filter_flatMap]
    rfl

/-- A list stays as it is if and only if each of its texts is one URL. -/
theorem flatMap_brokerUrls_eq_self_iff :
    parts.flatMap brokerUrls = parts ↔ ∀ part ∈ parts, part.IsBrokerUrl := by
  constructor
  · intro h part hpart
    rw [← h] at hpart
    obtain ⟨t, -, hmem⟩ := List.mem_flatMap.mp hpart
    exact isBrokerUrl_of_mem_brokerUrls hmem
  · intro h
    calc
      parts.flatMap brokerUrls = parts.flatMap fun part => [part] :=
        List.flatMap_congr fun part hpart => brokerUrls_of_isBrokerUrl (h part hpart)
      _ = parts := List.flatMap_singleton' parts

end Text

namespace ProvisioningClaims

theorem urlList_eq_brokerUrls (c : ProvisioningClaims) : c.urlList = (c.urls.getD []).brokerUrls :=
  rfl

/-- A list without URLs is left out, and an empty text is read in its place. -/
theorem getD_join_listNonEmpty? (urls : List Text) :
    ((listNonEmpty? urls).map (Text.join (CodePoint.ofChar ','))).getD []
      = Text.join (CodePoint.ofChar ',') urls := by
  cases urls <;> rfl

/-- Built claims carry their URLs with commas between them. -/
theorem getD_urls_of_build {s : Surroundings} {r : ProvisioningRequest} {c : ProvisioningClaims}
    (h : build s r = .ok c) : c.urls.getD [] = Text.join (CodePoint.ofChar ',') r.urls := by
  have hbuild : (BuildRequest.provisioning r).build s = .ok (.provisioning c) :=
    map_eq_ok_iff.mpr ⟨c, h, rfl⟩
  obtain ⟨-, -, envelope, -, hclaims⟩ := BuildRequest.build_eq_ok_iff.mp hbuild
  obtain rfl := Claims.provisioning.inj hclaims
  exact getD_join_listNonEmpty? r.urls

/-- The URLs of built claims are those of each argument in turn, and they are the arguments
themselves if and only if each of these is one URL. The URLs that are read from any claims are such
URLs, and when they are joined the same ones are read again. -/
theorem urlList_joined :
    (∀ s r c, build s r = .ok c → c.urlList = r.urls.flatMap Text.brokerUrls
      ∧ (c.urlList = r.urls ↔ ∀ url ∈ r.urls, url.IsBrokerUrl))
    ∧ ∀ c : ProvisioningClaims,
      { c with urls := some (Text.join (CodePoint.ofChar ',') c.urlList) }.urlList = c.urlList
        ∧ ∀ url ∈ c.urlList, url.IsBrokerUrl := by
  constructor
  · intro s r c h
    rw [urlList_eq_brokerUrls, getD_urls_of_build h, Text.brokerUrls_join]
    exact ⟨rfl, Text.flatMap_brokerUrls_eq_self_iff⟩
  · intro c
    have hread : ∀ url ∈ c.urlList, url.IsBrokerUrl :=
      fun url hurl => Text.isBrokerUrl_of_mem_brokerUrls hurl
    refine ⟨?_, hread⟩
    rw [urlList_eq_brokerUrls, Option.getD_some, Text.brokerUrls_join]
    exact Text.flatMap_brokerUrls_eq_self_iff.mpr hread

/-- A request with two arguments, of which one holds two URLs and the other none. -/
def twoInOne : ProvisioningRequest :=
  { ProvisioningRequest.sample with urls := [Text.ofString " nats://one,, nats://two", []] }

/-- The first of the arguments is read as two URLs, and the second one is not read at all. -/
theorem exists_urlList_twoInOne : ∃ c, build ⟨.mk 0, [], []⟩ twoInOne = .ok c
    ∧ c.urlList = [Text.ofString "nats://one", Text.ofString "nats://two"] := by
  obtain ⟨c, hbuild⟩ : ∃ c, build ⟨.mk 0, [], []⟩ twoInOne = .ok c := ⟨_, rfl⟩
  refine ⟨c, hbuild, ?_⟩
  rw [(urlList_joined.1 _ _ c hbuild).1]
  decide

end ProvisioningClaims

end FleetToken
