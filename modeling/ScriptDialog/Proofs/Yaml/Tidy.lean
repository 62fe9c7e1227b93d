import ScriptDialog.Proofs.Config.Layers
import ScriptDialog.Value.Equality
import ScriptDialog.Yaml.Loaded

/-! A reader that settings can rely on. What it loads is tidy: no mapping has two equal keys,
however often the text gives a key and whatever it brings in from other mappings. -/
namespace ScriptDialog.Yaml

variable {entries merged own : Entries} {v : Value}

theorem values_put {key : Atom} {value : Value} (here : value.Tidy)
    (others : ∀ e ∈ entries, e.2.Tidy) : ∀ e ∈ entries.put key value, e.2.Tidy := by
  induction entries with
  | nil => simpa [Entries.put] using here
  | cons entry entries ih =>
    obtain ⟨first, rest⟩ := List.forall_mem_cons.mp others
    unfold Entries.put
    split
    · exact List.forall_mem_cons.mpr ⟨here, rest⟩
    · exact List.forall_mem_cons.mpr ⟨first, ih rest⟩

theorem tidy_putAll (all : ∀ e ∈ entries, e.2.Tidy) : (Value.map (putAll entries)).Tidy := by
  have kept (before : Entries) (tidy : (Value.map before).Tidy) :
      (Value.map (entries.foldl
        (fun all entry => Entries.put entry.1 entry.2 all) before)).Tidy := by
    induction entries generalizing before with
    | nil => exact tidy
    | cons entry entries ih =>
      obtain ⟨first, rest⟩ := List.forall_mem_cons.mp all
      refine ih rest _ ?_
      cases tidy with
      | map distinct values =>
        exact .map (Entries.distinct_put distinct _ _) (values_put first values)
  exact kept [] (.map .nil (by simp))

theorem values_of_map (tidy : (Value.map entries).Tidy) : ∀ e ∈ entries, e.2.Tidy := by
  cases tidy with
  | map _ values => exact values

theorem values_mergedEntries (tidy : v.Tidy) (done : mergedEntries v = .ok merged) :
    ∀ e ∈ merged, e.2.Tidy := by
  cases tidy with
  | atom | color | tuple => cases done
  | map _ values =>
    cases done
    exact values
  | list all =>
    obtain ⟨parts, read, done⟩ := Success.of_bind done
    cases done
    intro e member
    obtain ⟨part, place, member⟩ := List.mem_flatten.mp member
    obtain ⟨item, here, same⟩ := Success.of_mapM read part (List.mem_reverse.mp place)
    split at same
    · cases same
      exact values_of_map (all _ here) e member
    · cases same

mutual

theorem tidy_nodeValue : (node : Node) → {v : Value} → nodeValue node = .ok v → v.Tidy
  | .scalar text plain, v, done => by
    rw [nodeValue] at done
    split at done
    · cases done
    · obtain ⟨a, _, rfl⟩ := Success.of_map done
      exact .atom a
  | .list items, v, done => by
    rw [nodeValue] at done
    obtain ⟨values, here, rfl⟩ := Success.of_map done
    exact .list (tidy_itemValues items here)
  | .map entries, v, done => by
    rw [nodeValue] at done
    obtain ⟨⟨merged, own⟩, here, done⟩ := Success.of_bind done
    cases done
    exact tidy_putAll (tidy_entryValues entries here)

theorem tidy_itemValues : (items : List Node) → {values : List Value} →
    itemValues items = .ok values → ∀ v ∈ values, v.Tidy
  | [], values, done => by
    cases done
    simp
  | item :: items, values, done => by
    rw [itemValues] at done
    obtain ⟨first, here, done⟩ := Success.of_bind done
    obtain ⟨rest, later, done⟩ := Success.of_bind done
    cases done
    exact List.forall_mem_cons.mpr ⟨tidy_nodeValue item here, tidy_itemValues items later⟩

theorem tidy_entryValues : (entries : List (Node × Node)) → {merged own : Entries} →
    entryValues entries = .ok (merged, own) → ∀ e ∈ merged ++ own, e.2.Tidy
  | [], merged, own, done => by
    cases done
    simp
  | (key, node) :: entries, merged, own, done => by
    rw [entryValues.eq_def] at done
    dsimp only at done
    split at done
    · obtain ⟨value, here, done⟩ := Success.of_bind done
      obtain ⟨first, brought, done⟩ := Success.of_bind done
      obtain ⟨⟨more, own'⟩, later, done⟩ := Success.of_bind done
      cases done
      rw [List.append_assoc]
      exact List.forall_mem_append.mpr
        ⟨values_mergedEntries (tidy_nodeValue node here) brought, tidy_entryValues entries later⟩
    · obtain ⟨atom, _, done⟩ := Success.of_bind done
      obtain ⟨value, here, done⟩ := Success.of_bind done
      obtain ⟨⟨more, own'⟩, later, done⟩ := Success.of_bind done
      cases done
      obtain ⟨fromMerged, fromOwn⟩ := List.forall_mem_append.mp (tidy_entryValues entries later)
      exact List.forall_mem_append.mpr
        ⟨fromMerged, List.forall_mem_cons.mpr ⟨tidy_nodeValue node here, fromOwn⟩⟩

end

/-- What a text says is tidy. -/
theorem tidy_load {text : List Char} (loaded : load text = .ok v) : v.Tidy := by
  unfold load at loaded
  split at loaded
  · cases loaded
  · cases loaded
    exact .atom _
  · exact tidy_nodeValue _ loaded

theorem load_packaged : load Config.packagedText = .ok (.map Config.defaults) := by
  have read : (load Config.packagedText).toOption = some (.map Config.defaults) := by decide +kernel
  exact Success.of_toOption read

theorem reads_load (files : Files) (bindings : List (String × String)) :
    Config.Reads ⟨files, bindings, load⟩ := by
  -- for any text: with the packaged one in its place, the check would read it anew
  have read (text : List Char) (v : Value) (loaded : load text = .ok v) :
    (Environment.mk files bindings load).readNotation text = .ok v := loaded
  exact ⟨read _ _ load_packaged, fun _ _ loaded => tidy_load loaded⟩

end ScriptDialog.Yaml
