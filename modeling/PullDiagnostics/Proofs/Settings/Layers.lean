import Mathlib.Data.List.Induction
import PullDiagnostics.Server.Session

/-!
# Layers of settings

A layer is put over settings by way of an object: the settings are written, the members that the
layer names are replaced, and what comes of it is read. What is written under a key is read back,
so a key that the layer does not name keeps its value, and a layer is refused for nothing but what
it says itself. Layers that are refused are passed over.

## Main results

* `Key.decode_encode`: what is written under a key is read back.
* `overlay_eq_ok_iff`: what a layer makes of settings.
* `layered_spec`: which layers are accepted, what every key has after any layers, and what this
  depends on.
-/

namespace PullDiagnostics

namespace Json

/-- The members of an object after one of them is set. -/
theorem field?_set (key other : String) (value : Json) (members : List (String × Json)) :
    field? other (set key value members) =
      if other = key then some value else field? other members := by
  induction members with
  | nil => rfl
  | cons entry rest ih =>
      obtain ⟨k, v⟩ := entry
      simp only [set]
      split
      next => rfl
      next =>
        split
        next hk =>
          subst hk
          by_cases h : other = key <;> simp [field?, h]
        next hk =>
          by_cases h : other = k
          · subst h
            simp [field?, Ne.symm hk]
          · simp [field?, h, ih]

end Json

namespace Decode

/-- Reading one thing after the other succeeds exactly if both steps do. -/
theorem bind_eq_ok_iff {α β : Type} {x : Except DecodeError α} {f : α → Except DecodeError β}
    {b : β} : (x >>= f) = .ok b ↔ ∃ a, x = .ok a ∧ f a = .ok b := by
  cases x with
  | error e => simp [Bind.bind, Except.bind]
  | ok a => simp [Bind.bind, Except.bind]

/-- A list is read back whose items are. -/
theorem items_map {ι α : Type} {item : ι → Except DecodeError α} {encode : α → ι}
    (h : ∀ a, item (encode a) = .ok a) (as : List α) : items item (as.map encode) = .ok as := by
  induction as with
  | nil => rfl
  | cons a rest ih => simp [items, h, ih, Except.map]

theorem array_strings (items : List String) :
    array string (Json.strings items) = .ok items :=
  @items_map _ _ string Json.string (fun _ => rfl) items

theorem word32_nat (n : UInt32) : word32 (Json.nat n.toNat) = .ok n := by
  have hlt : n.toNat < 4294967296 := n.toNat_lt
  have hle : (n.toNat : Int) ≤ 0xFFFFFFFF := by omega
  simp [word32, integer, Json.nat, hle, Except.map]

theorem word64_nat (n : UInt64) : word64 (Json.nat n.toNat) = .ok n := by
  have hlt : n.toNat < 18446744073709551616 := n.toNat_lt
  have hle : (n.toNat : Int) ≤ 0xFFFFFFFFFFFFFFFF := by omega
  simp [word64, integer, Json.nat, hle, Except.map]

end Decode

namespace Settings

/-- Settings that say the same under every key are the same. -/
theorem eq_of_get_eq {s s' : Settings} (h : ∀ k, s.get k = s'.get k) : s = s' := by
  obtain ⟨⟩ := s
  obtain ⟨⟩ := s'
  have hthreshold := h .argfileThreshold
  have hargs := h .args
  have hcommand := h .command
  have hexclude := h .exclude
  have hextensions := h .extensions
  have hsource := h .source
  have hwidth := h .spanWidth
  have hversion := h .versionArgs
  simp only [get] at *
  simp [*]

/-! ### There and back -/

/-- **Round trip.** What is written under a key is read back. -/
theorem Key.decode_encode (k : Key) (v : k.Value) : k.decode (k.encode v) = .ok v := by
  cases k with
  | argfileThreshold => exact Decode.word64_nat v
  | spanWidth => exact Decode.word32_nat v
  | command => rfl
  | source => cases v <;> rfl
  | args | exclude | extensions | versionArgs => exact Decode.array_strings v

/-- Among members under different keys, each is found under its own. -/
theorem Key.field?_map_name (value : Key → Json) {k : Key} {keys : List Key} (h : k ∈ keys) :
    Json.field? k.name (keys.map fun l => (l.name, value l)) = some (value k) := by
  induction keys with
  | nil => cases h
  | cons l rest ih =>
      by_cases hkl : k = l
      · simp [Json.field?, hkl]
      · have hname : k.name ≠ l.name := fun hname => hkl (Key.name_injective hname)
        have hrest : k ∈ rest := (List.mem_cons.mp h).resolve_left hkl
        simp [Json.field?, hname, ih hrest]

/-- Settings written out say under each key what they hold. -/
theorem field?_members (s : Settings) (k : Key) :
    Json.field? k.name s.members = some (k.encode (s.get k)) :=
  Key.field?_map_name (fun l => l.encode (s.get l)) (Key.mem_all k)

/-- After a merge the layer is asked first, then what was there before. -/
theorem field?_merge (before layer : List (String × Json)) (key : String) :
    Json.field? key (merge before layer) =
      (Json.field? key layer).or (Json.field? key before) := by
  induction layer with
  | nil => rfl
  | cons entry rest ih =>
      obtain ⟨k, v⟩ := entry
      have hset : merge before ((k, v) :: rest) = Json.set k v (merge before rest) := rfl
      rw [hset, Json.field?_set, ih]
      by_cases h : key = k <;> simp [Json.field?, h]

/-- What is read under a key of settings with a layer in their places: what the layer says, or
what the settings have. -/
theorem read_merge (s : Settings) (layer : List (String × Json)) (k : Key) :
    read (merge s.members layer) k =
      match Json.field? k.name layer with
      | none => .ok (s.get k)
      | some j => k.decode j := by
  unfold read
  rw [field?_merge, field?_members]
  cases Json.field? k.name layer with
  | none => exact k.decode_encode (s.get k)
  | some j => rfl

/-- Settings are read from an object exactly if each of their keys is. -/
theorem ofMembers_eq_ok_iff {members : List (String × Json)} {s : Settings} :
    ofMembers members = .ok s ↔ ∀ k, read members k = .ok (s.get k) := by
  simp only [ofMembers, Decode.bind_eq_ok_iff]
  constructor
  · rintro ⟨_, h₁, _, h₂, _, h₃, _, h₄, _, h₅, _, h₆, _, h₇, _, h₈, hs⟩ k
    cases hs
    cases k <;> assumption
  · intro h
    exact ⟨_, h .argfileThreshold, _, h .args, _, h .command, _, h .exclude, _, h .extensions,
      _, h .source, _, h .spanWidth, _, h .versionArgs, rfl⟩

/-! ### One layer -/

/-- What a layer says under a key. -/
def Key.said? (k : Key) (layer : Json) : Option Json :=
  (layerOf? layer).bind (Json.field? k.name)

/-- What a layer sets a key to. -/
def Key.setBy? (k : Key) (layer : Json) : Option k.Value :=
  (k.said? layer).bind fun j => (k.decode j).toOption

/-- Whether all that a layer says under the keys of settings can be read. -/
def isReadable (layer : Json) : Bool :=
  Key.all.all fun k => (k.said? layer).all fun j => (k.decode j).toBool

/-- All that a layer says can be read if each thing can. -/
theorem isReadable_iff {layer : Json} :
    isReadable layer = true ↔ ∀ k j, Key.said? k layer = some j → ∃ v, k.decode j = .ok v := by
  have hread {α : Type} (x : Except DecodeError α) : x.toBool = true ↔ ∃ v, x = .ok v := by
    cases x <;> simp [Except.toBool]
  simp only [isReadable, List.all_eq_true, Option.all_eq_true, hread]
  exact ⟨fun h k => h k k.mem_all, fun h k _ => h k⟩

/-- **One layer.** A layer makes settings of settings exactly if all that it says can be read;
then every key has what the layer sets it to, or what it had. -/
theorem overlay_eq_ok_iff {s s' : Settings} {layer : Json} :
    s.overlay layer = .ok s' ↔
      isReadable layer = true ∧ ∀ k, s'.get k = (k.setBy? layer).getD (s.get k) := by
  rw [isReadable_iff]
  unfold overlay
  cases hlayer : layerOf? layer with
  | none =>
      have hunsaid (k : Key) : k.said? layer = none := by simp [Key.said?, hlayer]
      simp only [hunsaid, Key.setBy?, Option.bind_none, Option.getD_none, reduceCtorEq,
        false_imp_iff, implies_true, true_and, Except.ok.injEq]
      exact ⟨fun h k => h ▸ rfl, fun h => (eq_of_get_eq h).symm⟩
  | some members =>
      have hsaid (k : Key) : k.said? layer = Json.field? k.name members := by
        simp [Key.said?, hlayer]
      simp only [ofMembers_eq_ok_iff, read_merge, hsaid, Key.setBy?, ← forall_and]
      refine forall_congr' fun k => ?_
      cases Json.field? k.name members with
      | none => simp [eq_comm]
      | some j =>
          cases hj : k.decode j with
          | error e => simp [hj]
          | ok v => simp [hj, Except.toOption, eq_comm]

/-! ### Many layers -/

/-- Settings with a layer over them, if it is accepted. -/
def withLayer (s : Settings) (layer : Json) : Settings :=
  (s.overlay layer).toOption.getD s

/-- The defaults with layers over them, the first one at the bottom. -/
def layered (layers : List Json) : Settings :=
  layers.foldl withLayer {}

/-- The settings that have given values under their keys. -/
def ofValues (value : (k : Key) → k.Value) : Settings where
  argfileThreshold := value .argfileThreshold
  args := value .args
  command := value .command
  exclude := value .exclude
  extensions := value .extensions
  source := value .source
  spanWidth := value .spanWidth
  versionArgs := value .versionArgs

/-- Settings hold the values that they are made of. -/
theorem get_ofValues (value : (k : Key) → k.Value) (k : Key) :
    (ofValues value).get k = value k := by
  cases k <;> rfl

/-- A layer is accepted exactly if all that it says can be read, whatever it is put over. -/
theorem exists_overlay_eq_ok_iff {s : Settings} {layer : Json} :
    (∃ s', s.overlay layer = .ok s') ↔ isReadable layer = true := by
  constructor
  · rintro ⟨s', h⟩
    exact (overlay_eq_ok_iff.mp h).1
  · intro h
    exact ⟨ofValues fun k => (k.setBy? layer).getD (s.get k),
      overlay_eq_ok_iff.mpr ⟨h, get_ofValues _⟩⟩

/-- A layer that cannot be read leaves the settings as they are. -/
theorem withLayer_of_not_isReadable {s : Settings} {layer : Json}
    (h : isReadable layer = false) : s.withLayer layer = s := by
  unfold withLayer
  cases hs : s.overlay layer with
  | error e => rfl
  | ok s' => rw [(overlay_eq_ok_iff.mp hs).1] at h; cases h

/-- A layer that can be read sets the keys that it names and leaves the others. -/
theorem get_withLayer_of_isReadable (s : Settings) {layer : Json} (h : isReadable layer = true)
    (k : Key) : (s.withLayer layer).get k = (k.setBy? layer).getD (s.get k) := by
  obtain ⟨s', hs⟩ := exists_overlay_eq_ok_iff.mpr h
  rw [withLayer, hs]
  exact (overlay_eq_ok_iff.mp hs).2 k

/-- Layers that are refused leave no trace. -/
theorem layered_filter (layers : List Json) :
    layered (layers.filter isReadable) = layered layers := by
  unfold layered
  generalize ({} : Settings) = s
  induction layers generalizing s with
  | nil => rfl
  | cons layer rest ih =>
      cases h : isReadable layer with
      | true => simp [h, ih]
      | false => simp [h, ih, withLayer_of_not_isReadable h]

/-- After layers that are all accepted a key has what the last one sets it to that names it. -/
theorem get_layered_of_isReadable {layers : List Json}
    (h : ∀ layer ∈ layers, isReadable layer = true) (k : Key) :
    (layered layers).get k = (layers.reverse.findSome? k.setBy?).getD (({} : Settings).get k) := by
  induction layers using List.reverseRecOn with
  | nil => rfl
  | append_singleton layers layer ih =>
      have hlast : isReadable layer = true := h layer (by simp)
      have hbefore := ih fun l hl => h l (List.mem_append_left _ hl)
      have happend : layered (layers ++ [layer]) = (layered layers).withLayer layer := by
        simp [layered]
      rw [happend, get_withLayer_of_isReadable _ hlast, hbefore, List.reverse_concat,
        List.findSome?_cons]
      cases k.setBy? layer <;> rfl

/-- **Layers.** First, a layer is accepted, whatever it is put over, exactly if it is no object
or every key of settings that its object names is followed by something that can be read there.
Second, after any layers every key has what the last of those accepted that name it sets it to,
or its default. Third, nothing else matters: layers of which those accepted say the same under
the keys of settings make the same settings. -/
theorem layered_spec :
    (∀ (s : Settings) (layer : Json),
      ((∃ s', s.overlay layer = .ok s') ↔ isReadable layer = true) ∧
      (isReadable layer = true ↔ ∀ members, layerOf? layer = some members →
        ∀ (k : Key) (j : Json), Json.field? k.name members = some j →
          ∃ v, k.decode j = .ok v)) ∧
    (∀ (layers : List Json) (k : Key), (layered layers).get k =
      ((layers.filter isReadable).reverse.findSome? k.setBy?).getD (({} : Settings).get k)) ∧
    ∀ layers layers' : List Json,
      (layers.filter isReadable).map (fun layer k => Key.said? k layer) =
        (layers'.filter isReadable).map (fun layer k => Key.said? k layer) →
      layered layers = layered layers' := by
  have hget (layers : List Json) (k : Key) : (layered layers).get k =
      ((layers.filter isReadable).reverse.findSome? k.setBy?).getD (({} : Settings).get k) := by
    rw [← layered_filter, get_layered_of_isReadable fun layer h => (List.mem_filter.mp h).2]
  refine ⟨fun s layer => ⟨exists_overlay_eq_ok_iff, ?_⟩, hget, fun layers layers' hsaid => ?_⟩
  · rw [isReadable_iff]
    cases hlayer : layerOf? layer with
    | none => simp [Key.said?, hlayer]
    | some members => simp [Key.said?, hlayer]
  · refine eq_of_get_eq fun k => ?_
    -- What a layer sets a key to is a function of what it says under it.
    have hset (ls : List Json) : ls.reverse.findSome? k.setBy? =
        (ls.map fun layer k => Key.said? k layer).reverse.findSome? fun said =>
          (said k).bind fun j => (k.decode j).toOption := by
      rw [← List.map_reverse, List.findSome?_map]
      rfl
    rw [hget, hget, hset, hset, hsaid]

/-- Three layers: the second one is refused for its arguments, so its command does not count, and
the third one has its object under the section key, so its command does not count either. -/
def sampleLayers : List Json :=
  [.object [("command", .string "javac"), ("spanWidth", .nat 4)],
    .object [("args", .nat 1), ("command", .string "ecj")],
    .object [("command", .string "jml"), ("sift", .object [("spanWidth", .nat 7)])]]

/-- What the keys have after the three layers. -/
theorem layered_sampleLayers :
    (layered sampleLayers).get .command = "javac" ∧
      (layered sampleLayers).get .spanWidth = 7 ∧ (layered sampleLayers).get .args = [] :=
  ⟨layered_spec.2.1 sampleLayers .command, layered_spec.2.1 sampleLayers .spanWidth,
    layered_spec.2.1 sampleLayers .args⟩

/-! ### Layers of a session -/

/-- The layer in the settings file of a directory, if there is one that can be used. -/
def fileLayer? (t : FileTree) (root : FilePath) : Option Json :=
  let path := root.join (.ofString fileName)
  if t.contains path then
    (t.read path).toOption.bind fun bytes =>
      (Utf8.decode? bytes).bind fun _ => (Json.parse bytes).toOption
  else none

/-- Settings loaded from a root are those of its settings file over the defaults. -/
theorem load_eq_layered (t : FileTree) (root : FilePath) :
    (load t root).1 = layered (fileLayer? t root).toList := by
  simp only [load, fileLayer?, readFile]
  split
  next =>
    cases t.read (root.join (.ofString fileName)) with
    | error e => rfl
    | ok bytes =>
        cases hdecode : Utf8.decode? bytes with
        | none => simp [hdecode, Except.toOption, layered]
        | some _ =>
            cases hparse : Json.parse bytes with
            | error e => simp [hdecode, hparse, Except.toOption, layered]
            | ok layer =>
                cases hover : ({} : Settings).overlay layer <;>
                  simp [hdecode, hparse, hover, Except.toOption, Except.mapError, layered,
                    withLayer]
  next => rfl

/-- Without options a session starts with the settings of its first root. -/
theorem startSettings_none (t : FileTree) (roots : List FilePath) :
    (Session.startSettings t roots none).1 = layered (roots.head?.bind (fileLayer? t)).toList := by
  cases roots with
  | nil => rfl
  | cons root rest => exact load_eq_layered t root

/-- What the client sends is one more layer. -/
theorem startSettings_some (t : FileTree) (roots : List FilePath) (layer : Json) :
    (Session.startSettings t roots (some layer)).1 =
      withLayer (Session.startSettings t roots none).1 layer := by
  simp only [Session.startSettings, withLayer]
  split
  next h => simp [h, Except.toOption]
  next h => simp [h, Except.toOption]

/-- A session starts with the layers of its settings file and of its client. -/
theorem startSettings_eq_layered (t : FileTree) (roots : List FilePath) (options : Option Json) :
    (Session.startSettings t roots options).1 =
      layered ((roots.head?.bind (fileLayer? t)).toList ++ options.toList) := by
  have happend (layers : List Json) : layered (layers ++ options.toList) =
      options.toList.foldl withLayer (layered layers) := List.foldl_append
  rw [happend, ← startSettings_none]
  cases options with
  | none => rfl
  | some layer => exact startSettings_some t roots layer

end Settings

end PullDiagnostics
