import HyperTrader.Monitor.Work

/-!
# The users that the registry reserves

A user is reserved when its first listener subscribes, and released when the last one has
gone: at once when the entry holds no lease, else after the lease was released. While the
store answers, the user may subscribe again, and the release may fail; a reservation is
then lost, or kept for ever. When neither happens the reserved users are those with a
live account stream and those whose release is under way.
-/

namespace HyperTrader

open Library

variable {ν : Type}

namespace SharedMonitorRegistry

open MonitorEntry

def liveUser (registry : SharedMonitorRegistry ν) (key : String) : Bool :=
  registry.entries.any fun entry =>
    entry.registered && entry.target.isAccount && entry.leaseKey == key

def releasing (registry : SharedMonitorRegistry ν) (key : String) : Bool :=
  registry.releases.any fun release =>
    !release.settled && release.releasesUser && release.leaseKey == key

/-- When the answer to a release arrives, the user was not subscribed again if the
release succeeded; if it was rejected the user is subscribed again, or another release of
it is under way. -/
def ReleasesInTime (registry : SharedMonitorRegistry ν) : MonitorEvent ν → Bool
  | .releaseSettled r =>
    (registry.releases[r]?).all fun release =>
      match release.settled || !release.releasesUser, release.answer with
      | true, _ | false, none => true
      | false, some true => !registry.liveUser release.leaseKey
      | false, some false =>
        registry.liveUser release.leaseKey ||
          releasing { registry with
            releases := registry.releases.set r { release with settled := true } }
            release.leaseKey
  | _ => true

variable {registry : SharedMonitorRegistry ν} {key : String}

theorem liveUser_iff : registry.liveUser key = true ↔
    ∃ (i : ℕ) (entry : MonitorEntry ν), registry.entries[i]? = some entry ∧
      entry.registered = true ∧ entry.target.isAccount = true ∧ entry.leaseKey = key := by
  simp only [liveUser, List.any_eq_true, Bool.and_eq_true, beq_iff_eq, List.mem_iff_getElem?]
  constructor
  · rintro ⟨entry, ⟨i, hi⟩, ⟨hregistered, haccount⟩, hkey⟩
    exact ⟨i, entry, hi, hregistered, haccount, hkey⟩
  · rintro ⟨i, entry, hi, hregistered, haccount, hkey⟩
    exact ⟨entry, ⟨i, hi⟩, ⟨hregistered, haccount⟩, hkey⟩

theorem releasing_iff : registry.releasing key = true ↔
    ∃ (r : ℕ) (release : LeaseRelease), registry.releases[r]? = some release ∧
      release.settled = false ∧ release.releasesUser = true ∧ release.leaseKey = key := by
  simp only [releasing, List.any_eq_true, Bool.and_eq_true, beq_iff_eq,
    Bool.not_eq_true', List.mem_iff_getElem?]
  constructor
  · rintro ⟨release, ⟨r, hr⟩, ⟨hsettled, huser⟩, hkey⟩
    exact ⟨r, release, hr, hsettled, huser, hkey⟩
  · rintro ⟨r, release, hr, hsettled, huser, hkey⟩
    exact ⟨release, ⟨r, hr⟩, ⟨hsettled, huser⟩, hkey⟩

/-- The registered entries have distinct keys, the live users are reserved, and every
other reserved user is being released. -/
structure Accounted (registry : SharedMonitorRegistry ν) : Prop where
  distinct : ∀ (i j : ℕ) (a b : MonitorEntry ν), registry.entries[i]? = some a →
    registry.entries[j]? = some b → a.registered = true → b.registered = true →
      a.leaseKey = b.leaseKey → i = j
  reserved : ∀ key, registry.liveUser key = true → key ∈ registry.uniqueUsers
  owed : ∀ key ∈ registry.uniqueUsers,
    registry.liveUser key = true ∨ registry.releasing key = true

theorem accounted_create : (create : SharedMonitorRegistry ν).Accounted where
  distinct i j a b ha := by simp [create] at ha
  reserved key hlive := by simp [create, liveUser] at hlive
  owed key hkey := absurd hkey List.not_mem_nil

/-- A step that concerns no reservation: the entries keep what they are of, and the same
users are reserved and are being released. -/
structure Kept (before after : SharedMonitorRegistry ν) : Prop where
  forward : ∀ (j : ℕ) (old : MonitorEntry ν), before.entries[j]? = some old →
    ∃ new, after.entries[j]? = some new ∧ new.target = old.target ∧
      new.leaseKey = old.leaseKey ∧ new.registered = old.registered
  backward : ∀ (j : ℕ) (new : MonitorEntry ν), after.entries[j]? = some new →
    ∃ old, before.entries[j]? = some old ∧ new.target = old.target ∧
      new.leaseKey = old.leaseKey ∧ new.registered = old.registered
  uniqueUsers : after.uniqueUsers = before.uniqueUsers
  releasing : ∀ key, after.releasing key = before.releasing key

variable {i r : ℕ} {before after : SharedMonitorRegistry ν} {entry : MonitorEntry ν}
  {target : MonitorTarget} {uniqueUsers : List String}

theorem Worked.kept
    (h : Worked i before after) : Kept before after where
  forward _ _ hold := by
    obtain ⟨new, hnew, hsame⟩ := h.forward hold
    exact ⟨new, hnew, hsame.target, hsame.leaseKey, hsame.registered⟩
  backward _ _ hnew := by
    obtain ⟨old, hold, hsame⟩ := h.backward hnew
    exact ⟨old, hold, hsame.target, hsame.leaseKey, hsame.registered⟩
  uniqueUsers := h.uniqueUsers
  releasing key := by rw [SharedMonitorRegistry.releasing, h.releases]; rfl

theorem kept_modify (registry : SharedMonitorRegistry ν) (i : ℕ)
    {f : MonitorEntry ν → MonitorEntry ν}
    (hf : ∀ entry, (f entry).target = entry.target ∧ (f entry).leaseKey = entry.leaseKey ∧
      (f entry).registered = entry.registered) : Kept registry (registry.modify i f) where
  forward j old hold := by
    by_cases hj : j = i
    · subst hj
      exact ⟨f old, getElem?_modify_self hold f, hf old⟩
    · refine ⟨old, ?_, rfl, rfl, rfl⟩
      rw [← hold]
      exact getElem?_modify_of_ne hj f
  backward j new hnew := by
    rcases getElem?_modify_cases hnew with ⟨old, hold, -, rfl⟩ | ⟨-, hold⟩
    · exact ⟨old, hold, hf old⟩
    · exact ⟨new, hold, rfl, rfl, rfl⟩
  uniqueUsers := rfl
  releasing _ := rfl

theorem Kept.liveUser (h : Kept before after)
    (key : String) : after.liveUser key = before.liveUser key := by
  rw [Bool.eq_iff_iff, liveUser_iff, liveUser_iff]
  constructor
  · rintro ⟨j, new, hnew, hregistered, haccount, hkey⟩
    obtain ⟨old, hold, htarget, hleaseKey, hsame⟩ := h.backward j new hnew
    exact ⟨j, old, hold, hsame ▸ hregistered, htarget ▸ haccount, hleaseKey ▸ hkey⟩
  · rintro ⟨j, old, hold, hregistered, haccount, hkey⟩
    obtain ⟨new, hnew, htarget, hleaseKey, hsame⟩ := h.forward j old hold
    exact ⟨j, new, hnew, hsame ▸ hregistered, htarget ▸ haccount, hleaseKey ▸ hkey⟩

theorem Accounted.kept (h : before.Accounted)
    (hkept : Kept before after) : after.Accounted where
  distinct j k a b ha hb hregistered hregistered' hkey := by
    obtain ⟨olda, hola, -, hkeya, hsamea⟩ := hkept.backward j a ha
    obtain ⟨oldb, holb, -, hkeyb, hsameb⟩ := hkept.backward k b hb
    rw [hsamea] at hregistered
    rw [hsameb] at hregistered'
    rw [hkeya, hkeyb] at hkey
    exact h.distinct j k olda oldb hola holb hregistered hregistered' hkey
  reserved key hlive := by
    rw [hkept.liveUser key] at hlive
    rw [hkept.uniqueUsers]
    exact h.reserved key hlive
  owed key hkey := by
    rw [hkept.uniqueUsers] at hkey
    rw [hkept.liveUser key, hkept.releasing key]
    exact h.owed key hkey

theorem Accounted.removed (h : before.Accounted) (hentry : before.entries[i]? = some entry)
    (hregistered : entry.registered = true)
    (hothers : ∀ j, j ≠ i → after.entries[j]? = before.entries[j]?)
    (hself : ∀ new, after.entries[i]? = some new → new.registered = false)
    (hreleasing : ∀ key, before.releasing key = true → after.releasing key = true)
    (husers : (after.uniqueUsers = before.uniqueUsers ∧
        (entry.target.isAccount = true → after.releasing entry.leaseKey = true)) ∨
      after.uniqueUsers = releaseUniqueUser before.uniqueUsers entry.leaseKey) :
    after.Accounted := by
  have hold : ∀ j new, after.entries[j]? = some new → new.registered = true →
      j ≠ i ∧ before.entries[j]? = some new := by
    intro j new hnew hnewRegistered
    by_cases hj : j = i
    · subst hj
      rw [hself new hnew] at hnewRegistered
      cases hnewRegistered
    · rw [hothers j hj] at hnew
      exact ⟨hj, hnew⟩
  have hlive : ∀ key, after.liveUser key = true →
      before.liveUser key = true ∧ key ≠ entry.leaseKey := by
    intro key hkey
    obtain ⟨j, new, hnew, hnewRegistered, haccount, rfl⟩ := liveUser_iff.mp hkey
    obtain ⟨hj, hnew⟩ := hold j new hnew hnewRegistered
    refine ⟨liveUser_iff.mpr ⟨j, new, hnew, hnewRegistered, haccount, rfl⟩, ?_⟩
    intro hsame
    exact hj (h.distinct j i new entry hnew hentry hnewRegistered hregistered hsame)
  have hsubset : ∀ key ∈ after.uniqueUsers, key ∈ before.uniqueUsers := by
    intro key hkey
    rcases husers with ⟨hsame, -⟩ | hreleased
    · rwa [hsame] at hkey
    · rw [hreleased] at hkey
      exact List.mem_of_mem_filter hkey
  refine ⟨?_, ?_, ?_⟩
  · intro j k a b ha hb hregistereda hregisteredb hkey
    exact h.distinct j k a b (hold j a ha hregistereda).2 (hold k b hb hregisteredb).2
      hregistereda hregisteredb hkey
  · intro key hkey
    obtain ⟨hbefore, hne⟩ := hlive key hkey
    rcases husers with ⟨hsame, -⟩ | hreleased
    · rw [hsame]
      exact h.reserved key hbefore
    · rw [hreleased]
      exact List.mem_filter.mpr ⟨h.reserved key hbefore, by simpa using hne⟩
  · intro key hkey
    rcases h.owed key (hsubset key hkey) with hbefore | hbefore
    · obtain ⟨j, old, hjold, holdRegistered, haccount, rfl⟩ := liveUser_iff.mp hbefore
      by_cases hj : j = i
      · subst hj
        obtain rfl : entry = old := Option.some.inj (hentry.symm.trans hjold)
        rcases husers with ⟨-, hreleases⟩ | hreleased
        · exact .inr (hreleases haccount)
        · rw [hreleased] at hkey
          have hne := List.of_mem_filter hkey
          simp at hne
      · refine .inl (liveUser_iff.mpr ⟨j, old, ?_, holdRegistered, haccount, rfl⟩)
        rw [hothers j hj]
        exact hjold
    · exact .inr (hreleasing key hbefore)

/-! ### The calls -/

theorem removed_entries (registry : SharedMonitorRegistry ν) (i : ℕ) (entry : MonitorEntry ν) :
    (∀ j, j ≠ i → ((registry.modify i .removed).stopStream i entry).entries[j]? =
      registry.entries[j]?) ∧
    ∀ new, ((registry.modify i .removed).stopStream i entry).entries[i]? = some new →
      new.registered = false := by
  constructor
  · intro j hj
    exact (getElem?_modify_of_ne hj _).trans (getElem?_modify_of_ne hj _)
  · intro new hnew
    rcases getElem?_modify_cases hnew with ⟨old, hold, -, rfl⟩ | ⟨hne, -⟩
    · rcases getElem?_modify_cases hold with ⟨older, -, -, rfl⟩ | ⟨hne, -⟩
      · rfl
      · exact absurd rfl hne
    · exact absurd rfl hne

theorem releasing_append
    {releases : List LeaseRelease} (h : after.releases = before.releases ++ releases)
    (hkey : before.releasing key = true) : after.releasing key = true := by
  unfold releasing at hkey ⊢
  rw [h, List.any_append, hkey]
  rfl

theorem releasing_append_self {before after : SharedMonitorRegistry ν}
    {release : LeaseRelease} (h : after.releases = before.releases ++ [release])
    (hsettled : release.settled = false) (huser : release.releasesUser = true) :
    after.releasing release.leaseKey = true := by
  unfold releasing
  rw [h, List.any_append]
  simp [hsettled, huser]

theorem Accounted.remove (h : registry.Accounted)
    (hentry : registry.entries[i]? = some entry) (hregistered : entry.registered = true) :
    (registry.remove i entry).Accounted := by
  obtain ⟨hothers, hself⟩ := removed_entries registry i entry
  unfold SharedMonitorRegistry.remove
  dsimp only
  cases entry.leaseGeneration with
  | none =>
    cases haccount : entry.target.isAccount with
    | false =>
      refine h.removed hentry hregistered hothers hself (fun _ hkey => hkey)
        (.inl ⟨rfl, ?_⟩)
      intro htrue
      rw [haccount] at htrue
      cases htrue
    | true =>
      exact h.removed hentry hregistered hothers hself (fun _ hkey => hkey) (.inr rfl)
  | some generation =>
    dsimp only
    refine h.removed hentry hregistered hothers hself ?_ (.inl ⟨rfl, ?_⟩)
    · intro key hkey
      exact releasing_append rfl hkey
    · intro haccount
      have hreleasing := @releasing_append_self ν registry
        { (registry.modify i .removed).stopStream i entry with
          releases := registry.releases ++
            [⟨entry.leaseKey, generation, entry.target.isAccount, none, false⟩] }
        ⟨entry.leaseKey, generation, entry.target.isAccount, none, false⟩ rfl rfl haccount
      exact hreleasing

theorem Accounted.closeEntry (h : registry.Accounted) (i : ℕ) :
    (closeEntry registry i).Accounted := by
  unfold SharedMonitorRegistry.closeEntry
  cases hentry : registry.entries[i]? with
  | none => exact h
  | some entry =>
    dsimp only
    split
    · exact h
    · rename_i hregistered
      rw [Bool.not_eq_false] at hregistered
      obtain ⟨hothers, hself⟩ := removed_entries registry i entry
      refine h.removed hentry hregistered hothers hself ?_ ?_
      · intro key hkey
        cases entry.leaseGeneration with
        | none => exact hkey
        | some generation => exact releasing_append rfl hkey
      · cases haccount : entry.target.isAccount with
        | false =>
          refine .inl ⟨rfl, ?_⟩
          intro htrue
          cases htrue
        | true => exact .inr rfl

theorem kept_join (registry : SharedMonitorRegistry ν) (i : ℕ) (entry : MonitorEntry ν)
    (listener : ℕ) : Kept registry (registry.join i entry listener) := by
  have hjoined : Kept registry (registry.modify i fun entry => { entry with listeners :=
      if listener ∈ entry.listeners then entry.listeners
      else entry.listeners ++ [listener] }) := kept_modify registry i fun _ => ⟨rfl, rfl, rfl⟩
  exact ⟨hjoined.forward, hjoined.backward, rfl, fun _ => rfl⟩

theorem Accounted.created (h : registry.Accounted)
    (hget : registry.get (monitorLeaseKey target) = none)
    (hsubset : ∀ key ∈ registry.uniqueUsers, key ∈ uniqueUsers)
    (hnew : ∀ key ∈ uniqueUsers, key ∈ registry.uniqueUsers ∨
      (target.isAccount = true ∧ key = monitorLeaseKey target))
    (hreserved : target.isAccount = true → monitorLeaseKey target ∈ uniqueUsers) :
    Accounted { registry with
      uniqueUsers := uniqueUsers
      entries := registry.entries ++ [.created target] } where
  distinct i j a b ha hb hregistered hregistered' hkey := by
    rcases getElem?_append_cases ha with holda | ⟨rfl, rfl⟩ <;>
      rcases getElem?_append_cases hb with holdb | ⟨rfl, rfl⟩
    · exact h.distinct i j a b holda holdb hregistered hregistered' hkey
    · rw [not_registered_of_get hget holda hkey] at hregistered
      cases hregistered
    · rw [not_registered_of_get hget holdb hkey.symm] at hregistered'
      cases hregistered'
    · rfl
  reserved key hlive := by
    obtain ⟨j, entry, hentry, hregistered, haccount, rfl⟩ := liveUser_iff.mp hlive
    rcases getElem?_append_cases hentry with hold | ⟨-, rfl⟩
    · exact hsubset _ (h.reserved _ (liveUser_iff.mpr ⟨j, entry, hold, hregistered, haccount, rfl⟩))
    · exact hreserved haccount
  owed key hkey := by
    rcases hnew key hkey with hold | ⟨haccount, rfl⟩
    · rcases h.owed key hold with hlive | hreleasing
      · obtain ⟨j, entry, hentry, hfacts⟩ := liveUser_iff.mp hlive
        exact .inl (liveUser_iff.mpr ⟨j, entry, getElem?_append_of_some hentry _, hfacts⟩)
      · exact .inr hreleasing
    · exact .inl (liveUser_iff.mpr ⟨registry.entries.length, .created target,
        List.getElem?_concat_length, rfl, haccount, rfl⟩)

theorem reserveUniqueUser_some {reserved : List String} {identity : String}
    (h : reserveUniqueUser uniqueUsers identity = .ok (some reserved)) :
    identity ∈ reserved ∧ (∀ key ∈ uniqueUsers, key ∈ reserved) ∧
      ∀ key ∈ reserved, key ∈ uniqueUsers ∨ key = identity := by
  unfold reserveUniqueUser at h
  split at h
  · cases h
  · split at h
    · rename_i hmem
      cases h
      exact ⟨hmem, fun _ hkey => hkey, fun _ hkey => .inl hkey⟩
    · split at h
      · cases h
      · cases h
        refine ⟨List.mem_append_right _ (List.mem_singleton.mpr rfl),
          fun _ hkey => List.mem_append_left _ hkey, fun key hkey => ?_⟩
        rcases List.mem_append.mp hkey with hold | hnew
        · exact .inl hold
        · exact .inr (List.mem_singleton.mp hnew)

theorem Accounted.subscribe (h : registry.Accounted)
    {listener : ℕ} {subscribed : SharedMonitorRegistry ν}
    (hsubscribe : registry.subscribe target listener = .ok subscribed) : subscribed.Accounted := by
  rcases subscribe_cases hsubscribe with ⟨i, entry, -, rfl⟩ |
      ⟨normalized, uniqueUsers, hlookup, hreserved, rfl⟩
  · exact h.kept (kept_join registry i entry listener)
  · have hget := get_of_lookup_none hlookup
    refine Accounted.kept ?_ (kept_join _ _ _ _)
    unfold reserve at hreserved
    cases haccount : normalized.isAccount with
    | true =>
      rw [haccount, if_pos rfl] at hreserved
      obtain ⟨hself, hsubset, hnew⟩ := reserveUniqueUser_some hreserved
      apply h.created hget hsubset
      · intro key hkey
        rcases hnew key hkey with hold | hsame
        · exact .inl hold
        · exact .inr ⟨haccount, hsame⟩
      · intro _
        exact hself
    | false =>
      rw [haccount] at hreserved
      cases hreserved
      apply h.created hget (fun _ hkey => hkey) (fun _ hkey => .inl hkey)
      intro htrue
      rw [haccount] at htrue
      cases htrue

theorem Accounted.leave (h : registry.Accounted) (handle : MonitorHandle) :
    (registry.leave handle).Accounted := by
  unfold SharedMonitorRegistry.leave
  cases hlookup : registry.lookup handle.leaseKey with
  | none => exact h
  | some found =>
    obtain ⟨i, entry⟩ := found
    obtain ⟨hentry, hregistered, -⟩ := lookup_some hlookup
    have hleft : Kept registry (registry.modify i fun other =>
        { other with listeners :=
            entry.listeners.filter fun other => other ≠ handle.listener }) :=
      kept_modify registry i fun _ => ⟨rfl, rfl, rfl⟩
    dsimp only
    split
    · apply (h.kept hleft).remove
      · exact getElem?_modify_self hentry _
      · exact hregistered
    · exact h.kept hleft

theorem Accounted.unsubscribe (h : registry.Accounted) (n : ℕ) (handle : MonitorHandle) :
    (registry.unsubscribe n handle).Accounted := by
  have hcalled : Kept registry { registry with
      handles := registry.handles.set n { handle with released := true } } :=
    ⟨fun _ old hold => ⟨old, hold, rfl, rfl, rfl⟩,
      fun _ new hnew => ⟨new, hnew, rfl, rfl, rfl⟩, rfl, fun _ => rfl⟩
  exact (h.kept hcalled).leave handle

/-! ### The answers to releases -/

theorem releasing_set {release next : LeaseRelease}
    (hrelease : registry.releases[r]? = some release)
    (hafter : after.releases = registry.releases.set r next)
    (hsettled : next.settled = release.settled) (huser : next.releasesUser = release.releasesUser)
    (hkey : next.leaseKey = release.leaseKey) (key : String) :
    after.releasing key = registry.releasing key := by
  rw [Bool.eq_iff_iff, releasing_iff, releasing_iff, hafter]
  constructor
  · rintro ⟨n, found, hfound, hfacts⟩
    rcases getElem?_set_cases hfound with ⟨-, rfl⟩ | ⟨-, hold⟩
    · rw [hsettled, huser, hkey] at hfacts
      exact ⟨r, release, hrelease, hfacts⟩
    · exact ⟨n, found, hold, hfacts⟩
  · rintro ⟨n, found, hfound, hfacts⟩
    by_cases hn : n = r
    · subst hn
      obtain rfl : found = release := Option.some.inj (hfound.symm.trans hrelease)
      refine ⟨n, next, List.getElem?_set_self (lt_length_of_getElem? hrelease), ?_⟩
      rw [hsettled, huser, hkey]
      exact hfacts
    · refine ⟨n, found, ?_, hfacts⟩
      rw [List.getElem?_set_ne (fun hrn => hn hrn.symm)]
      exact hfound

theorem kept_of_releases (hentries : after.entries = registry.entries)
    (husers : after.uniqueUsers = registry.uniqueUsers)
    (hreleasing : ∀ key, after.releasing key = registry.releasing key) :
    Kept registry after where
  forward j old hold := ⟨old, by rw [hentries, hold], rfl, rfl, rfl⟩
  backward j new hnew := ⟨new, by rw [← hentries, hnew], rfl, rfl, rfl⟩
  uniqueUsers := husers
  releasing := hreleasing

theorem kept_releaseServed (registry : SharedMonitorRegistry ν) (r : ℕ) (rejects : Bool) :
    Kept registry (registry.step (.releaseServed r rejects)) := by
  have hsame : Kept registry registry := kept_of_releases rfl rfl fun _ => rfl
  unfold step
  dsimp only
  cases hrelease : registry.releases[r]? with
  | none => exact hsame
  | some release =>
    dsimp only
    split
    · exact hsame
    · split
      · exact kept_of_releases rfl rfl (releasing_set hrelease rfl rfl rfl rfl)
      · exact kept_of_releases rfl rfl (releasing_set hrelease rfl rfl rfl rfl)

theorem Accounted.settled (h : registry.Accounted) {r : ℕ} {release : LeaseRelease}
    (hrelease : registry.releases[r]? = some release)
    {after : SharedMonitorRegistry ν} (hentries : after.entries = registry.entries)
    (hreleases : after.releases = registry.releases.set r { release with settled := true })
    (husers : after.uniqueUsers = registry.uniqueUsers)
    (hcovered : release.releasesUser = true → release.settled = false →
      registry.liveUser release.leaseKey = true ∨
        after.releasing release.leaseKey = true) : after.Accounted := by
  have hlive : ∀ key, after.liveUser key = registry.liveUser key := by
    intro key
    rw [SharedMonitorRegistry.liveUser, hentries]
    rfl
  refine ⟨?_, ?_, ?_⟩
  · rw [hentries]
    exact h.distinct
  · intro key hkey
    rw [hlive] at hkey
    rw [husers]
    exact h.reserved key hkey
  · intro key hkey
    rw [husers] at hkey
    rw [hlive]
    rcases h.owed key hkey with hbefore | hbefore
    · exact .inl hbefore
    · obtain ⟨n, found, hfound, hsettled, huser, rfl⟩ := releasing_iff.mp hbefore
      by_cases hn : n = r
      · subst hn
        obtain rfl : found = release := Option.some.inj (hfound.symm.trans hrelease)
        exact hcovered huser hsettled
      · refine .inr (releasing_iff.mpr ⟨n, found, ?_, hsettled, huser, rfl⟩)
        rw [hreleases, List.getElem?_set_ne (fun hrn => hn hrn.symm)]
        exact hfound

theorem Accounted.released (h : registry.Accounted) (hlive : registry.liveUser key = false)
    (hentries : after.entries = registry.entries) (hreleasing : ∀ other, other ≠ key →
      registry.releasing other = true → after.releasing other = true)
    (husers : after.uniqueUsers = releaseUniqueUser registry.uniqueUsers key) :
    after.Accounted := by
  have hsame : ∀ other, after.liveUser other = registry.liveUser other := by
    intro other
    rw [SharedMonitorRegistry.liveUser, hentries]
    rfl
  refine ⟨?_, ?_, ?_⟩
  · rw [hentries]
    exact h.distinct
  · intro other hother
    rw [hsame] at hother
    rw [husers]
    refine List.mem_filter.mpr ⟨h.reserved other hother, ?_⟩
    simp only [ne_eq, decide_not, Bool.not_eq_true', decide_eq_false_iff_not]
    rintro rfl
    rw [hlive] at hother
    cases hother
  · intro other hother
    rw [husers] at hother
    have hne : other ≠ key := by
      have hfiltered := List.of_mem_filter hother
      simpa using hfiltered
    rw [hsame]
    rcases h.owed other (List.mem_of_mem_filter hother) with hbefore | hbefore
    · exact .inl hbefore
    · exact .inr (hreleasing other hne hbefore)

theorem Accounted.releaseSettled (h : registry.Accounted)
    (htime : registry.ReleasesInTime (.releaseSettled r) = true) :
    (registry.step (.releaseSettled r)).Accounted := by
  unfold step
  dsimp only [ReleasesInTime] at htime ⊢
  cases hrelease : registry.releases[r]? with
  | none => exact h
  | some release =>
    rw [hrelease, Option.all_some] at htime
    obtain ⟨leaseKey, generation, releasesUser, answer, settled⟩ := release
    dsimp only at htime ⊢
    cases answer with
    | none => exact h
    | some answer =>
      cases settled with
      | true => exact h
      | false =>
        rw [if_neg (by simp)]
        cases releasesUser with
        | false =>
          rw [if_neg (by simp)]
          apply h.settled hrelease
          · rfl
          · rfl
          · rfl
          · intro htrue
            cases htrue
        | true =>
          cases answer with
          | true =>
            rw [if_pos (by simp)]
            have hlive : registry.liveUser leaseKey = false := by
              simpa using htime
            apply h.released hlive
            · rfl
            · intro other hne hother
              obtain ⟨n, found, hfound, hfacts⟩ := releasing_iff.mp hother
              refine releasing_iff.mpr ⟨n, found, ?_, hfacts⟩
              have hn : r ≠ n := by
                rintro rfl
                have hsame := Option.some.inj (hfound.symm.trans hrelease)
                rw [hsame] at hfacts
                exact hne hfacts.2.2.symm
              rw [← hfound]
              exact List.getElem?_set_ne hn
            · rfl
          | false =>
            rw [if_neg (by simp)]
            apply h.settled hrelease
            · rfl
            · rfl
            · rfl
            · intro _ _
              simpa using htime

theorem Accounted.step (h : registry.Accounted) {event : MonitorEvent ν}
    (htime : registry.ReleasesInTime event = true) : (registry.step event).Accounted := by
  cases hcall : isCall event with
  | false =>
    obtain ⟨i, hworked⟩ := worked_step registry hcall
    exact h.kept hworked.kept
  | true =>
    cases event with
    | subscribe target listener =>
      unfold SharedMonitorRegistry.step
      dsimp only
      split
      · rename_i subscribed hsubscribe
        exact h.subscribe hsubscribe
      · exact h
    | unsubscribe n =>
      unfold SharedMonitorRegistry.step
      dsimp only
      split
      · exact h
      · split
        · exact h
        · exact h.unsubscribe n _
    | reconcile authorizes now =>
      have hstep : ∀ (before : SharedMonitorRegistry ν) i authorizes now,
          before.Accounted → (reconcileEntry authorizes now before i).Accounted :=
        fun before i authorizes now hbefore =>
          hbefore.kept (worked_reconcileEntry authorizes now before i).kept
      exact reconcile_induction hstep h authorizes now
    | close =>
      have hstep : ∀ (before : SharedMonitorRegistry ν) i,
          before.Accounted → (SharedMonitorRegistry.closeEntry before i).Accounted :=
        fun _ i hbefore => hbefore.closeEntry i
      exact close_induction hstep h
    | releaseServed r rejects => exact h.kept (kept_releaseServed registry r rejects)
    | releaseSettled r => exact h.releaseSettled htime
    | authorized i answer => cases hcall
    | acquireServed i answer => cases hcall
    | renewServed i rejects => cases hcall
    | leaseAnswered i now => cases hcall
    | loaded i snapshot => cases hcall
    | streamOpened i resolves => cases hcall
    | delta s value => cases hcall
    | gap s => cases hcall
    | leaseExpired i => cases hcall
    | storeExpired key => cases hcall

end SharedMonitorRegistry

/-- **Monitor user capacity.** When the answer to every release arrives in time (the user
was not subscribed again if the release succeeded; if it was rejected the user is
subscribed, or another release of it is under way), then in every state every user with a
live account stream is reserved, and once all releases have settled no other user is. -/
theorem reserved_users_live (events : List (MonitorEvent ν))
    (htime : Along SharedMonitorRegistry.step
      (fun registry event => registry.ReleasesInTime event = true) .create events) :
    let registry := run SharedMonitorRegistry.step .create events
    (∀ key, registry.liveUser key = true → key ∈ registry.uniqueUsers) ∧
    ((∀ release ∈ registry.releases, release.settled = true) →
      ∀ key, key ∈ registry.uniqueUsers ↔ registry.liveUser key = true) := by
  intro registry
  have haccounted : registry.Accounted := by
    refine run_invariant_along ?_ SharedMonitorRegistry.accounted_create htime
    intro before event h hevent
    exact h.step hevent
  refine ⟨haccounted.reserved, fun hsettled key => ⟨fun hkey => ?_, haccounted.reserved key⟩⟩
  rcases haccounted.owed key hkey with hlive | hreleasing
  · exact hlive
  · obtain ⟨r, release, hrelease, hopen, -⟩ :=
      SharedMonitorRegistry.releasing_iff.mp hreleasing
    rw [hsettled release (List.mem_of_getElem? hrelease)] at hopen
    cases hopen

def monitoredAccount : MonitorTarget :=
  .account .testnet ("0x" ++ String.ofList (List.replicate 40 'a'))

def monitoredOnce : List (MonitorEvent ℕ) :=
  [.subscribe monitoredAccount 0, .reconcile false 0, .acquireServed 0 (.granted 1),
    .leaseAnswered 0 1, .unsubscribe 0]

theorem reserved_users_live_released :
    let registry := run SharedMonitorRegistry.step .create
      (monitoredOnce ++ [.releaseServed 0 false, .releaseSettled 0])
    (∀ key, registry.liveUser key = true → key ∈ registry.uniqueUsers) ∧
    ((∀ release ∈ registry.releases, release.settled = true) →
      ∀ key, key ∈ registry.uniqueUsers ↔ registry.liveUser key = true) :=
  reserved_users_live _ (by decide)

/-- The account is subscribed again before its lease is released: once the answer has
arrived it has a live stream and is not reserved. -/
theorem reserved_users_resubscribed :
    let registry := run SharedMonitorRegistry.step .create
      (monitoredOnce ++ [.subscribe monitoredAccount 1, .releaseServed 0 false, .releaseSettled 0])
    (∀ release ∈ registry.releases, release.settled = true) ∧
    registry.liveUser (monitorLeaseKey monitoredAccount) = true ∧
    monitorLeaseKey monitoredAccount ∉ registry.uniqueUsers := by
  decide

end HyperTrader
