import TileComposite.Pixel.Declared
import TileComposite.Proofs.Message

/-! What a plate's declarations mean. A pixel type is found for the supported pairs that the
declarations name, and otherwise the layout is refused before the channel type is judged. -/
namespace TileComposite

namespace Declared
variable {α : Type}

/-- The member is declared, directly or by plain data that shows its name in any case. -/
def Means (name : α → String) : Declared α → α → Prop
  | member a, x => a = x
  | plain v, x => ∃ s, v.shown? = some s ∧ Text.lower s = name x

theorem member?_eq_some {named : String → Option α} {name : α → String}
    (names : ∀ s x, named s = some x ↔ s = name x) {d : Declared α} {x : α} :
    d.member? named = some x ↔ d.Means name x := by
  cases d with
  | member a => exact Option.some_inj
  | plain v => simp only [member?, Means, Option.bind_eq_some_iff, names]

theorem Means.unique {named : String → Option α} {name : α → String}
    (names : ∀ s x, named s = some x ↔ s = name x) {d : Declared α} {x y : α}
    (means : d.Means name x) (means' : d.Means name y) : x = y := by
  rw [← member?_eq_some names] at means means'
  exact Option.some.inj (means.symm.trans means')

end Declared

theorem PixelFormat.ofName?_eq_some (s : String) (f : PixelFormat) :
    ofName? s = some f ↔ s = f.name := by
  constructor
  · intro found
    have named := List.find?_some found
    exact (of_decide_eq_true named).symm
  · rintro rfl
    cases f <;> decide

theorem ChannelType.ofName?_eq_some (s : String) (c : ChannelType) :
    ofName? s = some c ↔ s = c.name := by
  constructor
  · intro found
    have named := List.find?_some found
    exact (of_decide_eq_true named).symm
  · rintro rfl
    cases c <;> decide

namespace PixelType

/-- Why a pair of declarations stands for no supported pixel type. -/
inductive Unsupported (format : Declared PixelFormat) (channel : Declared ChannelType) :
    Failure → Prop where
  | layout : (∀ t ∈ supported, ¬format.Means PixelFormat.name t.format) →
      Unsupported format channel (.unsupportedFormat format.formatText?)
  | pair {t} : t ∈ supported → format.Means PixelFormat.name t.format →
      (∀ u ∈ supported, u.format = t.format → ¬channel.Means ChannelType.name u.channel) →
      Unsupported format channel (.unsupportedChannel channel.channelText? t.format)

variable {format : Declared PixelFormat} {channel : Declared ChannelType} {t : PixelType}
  {e : Failure}

theorem Unsupported.kind (unsupported : Unsupported format channel e) :
    e.kind = .unsupported := by
  cases unsupported <;> rfl

theorem resolve_cases (format : Declared PixelFormat) (channel : Declared ChannelType) :
    (∃ e, resolve format channel = .error e ∧ Unsupported format channel e) ∨
    ∃ t ∈ supported, resolve format channel = .ok t ∧ format.Means PixelFormat.name t.format ∧
      channel.Means ChannelType.name t.channel := by
  have layout {f : PixelFormat} := Declared.member?_eq_some PixelFormat.ofName?_eq_some
    (d := format) (x := f)
  have type {c : ChannelType} := Declared.member?_eq_some ChannelType.ofName?_eq_some
    (d := channel) (x := c)
  unfold resolve
  split
  · rename_i none
    refine .inl ⟨_, rfl, .layout fun t member means => ?_⟩
    rw [layout.mpr means, Option.filter_eq_none_iff] at none
    exact none _ rfl (List.contains_iff_mem.mpr (List.mem_map_of_mem member))
  · rename_i f some
    obtain ⟨named, known⟩ := Option.filter_eq_some_iff.mp some
    obtain ⟨s, member, rfl⟩ := List.mem_map.mp (List.contains_iff_mem.mp known)
    split
    · rename_i t found
      have hit := List.find?_some found
      obtain ⟨same, channelled⟩ := of_decide_eq_true hit
      refine .inr ⟨t, List.mem_of_find?_eq_some found, rfl, ?_, type.mp channelled⟩
      exact same ▸ layout.mp named
    · rename_i missing
      refine .inl ⟨_, rfl, .pair member (layout.mp named) fun u supported same means => ?_⟩
      refine List.find?_eq_none.mp missing u supported (decide_eq_true ⟨same, ?_⟩)
      exact type.mpr means

theorem layout_unique {f f' : PixelFormat} (means : format.Means PixelFormat.name f)
    (means' : format.Means PixelFormat.name f') : f = f' :=
  Declared.Means.unique PixelFormat.ofName?_eq_some means means'

theorem Unsupported.not_named (unsupported : Unsupported format channel e) :
    ¬∃ t ∈ supported, format.Means PixelFormat.name t.format ∧
      channel.Means ChannelType.name t.channel := by
  rintro ⟨t, member, layout, type⟩
  cases unsupported with
  | layout none => exact none t member layout
  | pair _ layout' none => exact none t member (layout_unique layout layout') type

theorem Unsupported.unique {e' : Failure} (unsupported : Unsupported format channel e)
    (unsupported' : Unsupported format channel e') : e = e' := by
  cases unsupported with
  | layout none =>
    cases unsupported' with
    | layout => rfl
    | pair member means => exact absurd means (none _ member)
  | pair member means =>
    cases unsupported' with
    | layout none => exact absurd means (none _ member)
    | pair _ means' => rw [layout_unique means means']

theorem Unsupported.resolve_eq (unsupported : Unsupported format channel e) :
    resolve format channel = .error e := by
  obtain ⟨e', failed, unsupported'⟩ | ⟨t, member, _, named⟩ := resolve_cases format channel
  · rw [failed, unsupported.unique unsupported']
  · exact absurd ⟨t, member, named⟩ unsupported.not_named

/-- The pixel type is found just when the declarations name a supported one. -/
theorem resolve_ok_iff : (∃ t, resolve format channel = .ok t) ↔
    ∃ t ∈ supported, format.Means PixelFormat.name t.format ∧
      channel.Means ChannelType.name t.channel := by
  obtain ⟨e, failed, unsupported⟩ | ⟨t, member, found, named⟩ := resolve_cases format channel
  · constructor
    · rintro ⟨t, found⟩
      cases failed.symm.trans found
    · exact fun named => absurd named unsupported.not_named
  · exact ⟨fun _ => ⟨t, member, named⟩, fun _ => ⟨t, found⟩⟩

end PixelType
end TileComposite
