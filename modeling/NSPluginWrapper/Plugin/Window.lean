import NSPluginWrapper.Lib.Blocks
import NSPluginWrapper.Npapi.Marshal
import NSPluginWrapper.Plugin.Info

/-! npw-viewer.c: the window of an instance, which NPP_SetWindow makes, updates and destroys. Widgets and the blocks of
    malloc() are told apart by their numbers in a `Blocks`. -/

namespace NSPluginWrapper
open Lib

def NPError.invalidInstanceError : NPError := 2

namespace NPWindowType
abbrev window : Int32 := 1
abbrev drawable : Int32 := 2
end NPWindowType

namespace Windows

inductive Fault where
  /-- `assert(plugin->window.ws_info == NULL)`. -/
  | assertion
  /-- A ws_info is followed that is NULL. -/
  | nullAttributes
  deriving Repr, DecidableEq

structure WsInfo where
  block : Nat
  info : NPSetWindowCallbackStruct
  deriving Repr, DecidableEq

/-- NPWindow, with the block of its ws_info. -/
structure Window where
  window : UInt64
  x : Int32
  y : Int32
  width : UInt32
  height : UInt32
  clipRect : NPRect
  type : Int32
  wsInfo : Option WsInfo
  deriving Repr, DecidableEq

/-- GtkData and XtData. The `container` is the `top_widget` of the latter. -/
structure Toolkit where
  block : Nat
  container : Option Nat
  deriving Repr, DecidableEq

def Toolkit.blocks (toolkit : Toolkit) : List Nat := toolkit.container.toList ++ [toolkit.block]

structure PluginInstance where
  useXembed : Bool
  isWindowless : Bool
  window : Window
  width : UInt32
  height : UInt32
  toolkitData : Option Toolkit
  deriving Repr, DecidableEq

/-- What the system answers during one call: whether NPW_MemClone() and the calloc() of the toolkit data get their
    block, the visuals of gdkx_visual_get() and gdk_visual_get_system(), the size that XGetWindowAttributes() tells,
    the id of the window that is made for the plugin, and the result of its NPP_SetWindow. -/
structure System where
  clone : Bool
  visual : UInt64 → Option UInt64
  systemVisual : Option UInt64
  windowSize : Option (UInt32 × UInt32)
  toolkit : Bool
  ownWindow : UInt64
  setwindow : NPError

section Utilities
variable (sys : System)

def createWindowAttributes : Option NPSetWindowCallbackStruct → Except Int NPSetWindowCallbackStruct
  | none => .error (-1)
  | some wsInfo =>
    match if wsInfo.visual ≠ 0 then sys.visual wsInfo.visual else sys.systemVisual with
    | none => .error (-2)
    | some visual => .ok { wsInfo with visual := visual }

def destroyWindowAttributes (wsInfo : Option WsInfo) (blocks : Blocks) : Blocks :=
  blocks.releaseAll (wsInfo.map WsInfo.block).toList

/-- The last of its steps only prints a warning. -/
def fixupSizeHints (plugin : PluginInstance) : PluginInstance :=
  let window := plugin.window
  if (window.width = 0 ∨ window.height = 0) ∧ plugin.width ≠ 0 ∧ plugin.height ≠ 0 then
    { plugin with window := { window with width := plugin.width, height := plugin.height } }
  else if window.window ≠ 0 ∧ (window.width = 0 ∨ window.height = 0) then
    match sys.windowSize with
    | some (width, height) =>
      { plugin with window := { window with width := width, height := height }, width := width, height := height }
    | none => plugin
  else plugin

/-- NPW_MemClone: the memory is there before it is copied to. -/
def memClone (wsInfo : Option WsInfo) (blocks : Blocks) : Except Fault (Option WsInfo × Blocks) :=
  if sys.clone then
    match wsInfo with
    | none => .error .nullAttributes
    | some wsInfo => .ok (some ⟨blocks.made, wsInfo.info⟩, blocks.make)
  else .ok (none, blocks)

/-- The two toolkits differ in the widgets that they make, and in whose id the window gets. -/
def createToolkit (plugin : PluginInstance) (blocks : Blocks) : Int × PluginInstance × Blocks :=
  if sys.toolkit then
    (0, { plugin with
            toolkitData := some ⟨blocks.made, some blocks.make.made⟩
            window := { plugin.window with window := sys.ownWindow } }, blocks.make.make)
  else (-1, plugin, blocks)

def createWindow (plugin : PluginInstance) (window : Window) (blocks : Blocks) :
    Except Fault (Int × PluginInstance × Blocks) :=
  let old := plugin.window.wsInfo
  let (plugin, blocks) := if plugin.isWindowless then
      ({ plugin with window := { plugin.window with wsInfo := none } }, destroyWindowAttributes old blocks)
    else (plugin, blocks)
  if plugin.window.wsInfo.isSome then .error .assertion
  else do
    let (wsInfo, blocks) ← memClone sys window.wsInfo blocks
    match wsInfo with
    | none => return (-1, plugin, blocks)
    | some wsInfo =>
      match createWindowAttributes sys (some wsInfo.info) with
      | .error _ => return (-1, plugin, blocks)
      | .ok info =>
        let plugin := fixupSizeHints sys { plugin with window := { window with wsInfo := some ⟨wsInfo.block, info⟩ } }
        if plugin.isWindowless then return (0, plugin, blocks)
        else return createToolkit sys plugin blocks

/-- The result of create_window_attributes() is not looked at, which leaves the visual as it was given. A resize of the
    widgets follows a change of size under Xt. -/
def updateWindow (plugin : PluginInstance) (window : Window) : Except Fault (Int × PluginInstance) :=
  if plugin.isWindowless then .ok (-1, plugin)
  else
    match window.wsInfo with
    | none => .ok (-1, plugin)
    | some given =>
      match plugin.window.wsInfo with
      | none => .error .nullAttributes
      | some wsInfo =>
        let info := match createWindowAttributes sys (some given.info) with
          | .ok info => info
          | .error _ => given.info
        .ok (0, { plugin with
          window := { plugin.window with
            wsInfo := some ⟨wsInfo.block, info⟩
            clipRect := window.clipRect
            x := window.x
            y := window.y
            width := window.width
            height := window.height } })

/-- A container that was destroyed on its own is NULL. -/
def destroyWindow (plugin : PluginInstance) (blocks : Blocks) : PluginInstance × Blocks :=
  let toolkit := (plugin.toolkitData.map Toolkit.blocks).getD []
  ({ plugin with toolkitData := none, window := { plugin.window with wsInfo := none } },
    destroyWindowAttributes plugin.window.wsInfo (blocks.releaseAll toolkit))

/-- The part of g_NPP_SetWindow before the call of the plugin, from where it looks for a window to show. -/
def showWindow (plugin : PluginInstance) (npWindow : Option Window) (blocks : Blocks) :
    Except Fault (Int × PluginInstance × Blocks) :=
  match npWindow.filter fun w => w.window ≠ 0 ∨ plugin.isWindowless with
  | none => .ok (0, plugin, blocks)
  | some window =>
    if plugin.toolkitData.isSome then do
      let (made, plugin) ← updateWindow sys plugin window
      return (made, plugin, blocks)
    else createWindow sys plugin window blocks

/-- `setwindow` tells whether `plugin_funcs.setwindow` is there. -/
def gNPPSetWindow (setwindow : Bool) (plugin : Option PluginInstance) (npWindow : Option Window) (blocks : Blocks) :
    Except Fault (NPError × Option PluginInstance × Blocks) :=
  match plugin with
  | none => .ok (NPError.invalidInstanceError, none, blocks)
  | some plugin =>
    if !setwindow then .ok (NPError.invalidFunctableError, some plugin, blocks)
    else do
      let isWindowless := npWindow.any fun w => w.type = NPWindowType.drawable
      let (made, plugin, blocks) ← showWindow sys { plugin with isWindowless := isWindowless } npWindow blocks
      if made < 0 then return (NPError.genericError, some plugin, blocks)
      else if npWindow.all fun w => w.window = 0 ∧ ¬plugin.isWindowless then
        let (plugin, blocks) := destroyWindow plugin blocks
        return (sys.setwindow, some plugin, blocks)
      else return (sys.setwindow, some plugin, blocks)

end Utilities

/-- What the viewer has for one instance. There is none after NPP_Destroy, when its number is in no table. -/
structure Viewer where
  setwindow : Bool
  plugin : Option PluginInstance
  blocks : Blocks
  deriving Repr, DecidableEq

/-- The window that rpc_method_get_args() makes. -/
def received (npWindow : NPWindow) (blocks : Blocks) : Window × Blocks :=
  ({ window := npWindow.window
     x := npWindow.x
     y := npWindow.y
     width := npWindow.width
     height := npWindow.height
     clipRect := npWindow.clipRect
     type := npWindow.type
     wsInfo := npWindow.wsInfo.map fun info => ⟨blocks.made, info⟩ },
    if npWindow.wsInfo.isSome then blocks.make else blocks)

def handleNPPSetWindow (sys : System) (v : Viewer) (npWindow : Option NPWindow) : Except Fault (NPError × Viewer) :=
  match npWindow with
  | none => do
    let (ret, plugin, blocks) ← gNPPSetWindow sys v.setwindow v.plugin none v.blocks
    return (ret, { v with plugin := plugin, blocks := blocks })
  | some npWindow => do
    let (window, blocks) := received npWindow v.blocks
    let (ret, plugin, blocks) ← gNPPSetWindow sys v.setwindow v.plugin (some window) blocks
    return (ret, { v with plugin := plugin, blocks := destroyWindowAttributes window.wsInfo blocks })

/-- plugin_instance_invalidate, in g_NPP_Destroy. -/
def gNPPDestroy (v : Viewer) : Viewer :=
  match v.plugin with
  | none => v
  | some plugin => { v with plugin := none, blocks := (destroyWindow plugin v.blocks).2 }

/-- gtk_widget_destroyed, the callback of the container. There is none for the widgets of Xt. -/
def containerDestroyed (v : Viewer) : Viewer :=
  match v.plugin with
  | some plugin =>
    match plugin.toolkitData with
    | some ⟨block, some container⟩ =>
      if plugin.useXembed then
        { v with
          plugin := some { plugin with toolkitData := some ⟨block, none⟩ }
          blocks := v.blocks.release container }
      else v
    | _ => v
  | none => v

inductive Event where
  | setWindow (sys : System) (window : Option NPWindow)
  | containerDestroyed
  | destroy

def exec (v : Viewer) : Event → Except Fault Viewer
  | .setWindow sys window => Prod.snd <$> handleNPPSetWindow sys v window
  | .containerDestroyed => .ok (containerDestroyed v)
  | .destroy => .ok (gNPPDestroy v)

/-- After g_NPP_New. -/
def created (setwindow useXembed : Bool) (width height : UInt32) : Viewer where
  setwindow := setwindow
  plugin := some ⟨useXembed, false, ⟨0, 0, 0, 0, 0, ⟨0, 0, 0, 0⟩, 0, none⟩, width, height, none⟩
  blocks := .empty

end Windows
end NSPluginWrapper
