import GameShelf.Tag.Basic

/-!
# The tags of the library

The closed sets that places, compartments, storefronts and icons draw on, each with its wire
texts and the table of texts that stand for its members.

* `PlaceKind`, `CompartmentKind`: kinds of places and of compartments in them.
* `Platform`, `PaymentMethod`, `BillingCycle`: what describes a storefront.
* `Color`: colours of icons.
-/

namespace GameShelf

/-- What a place is. -/
inductive PlaceKind where
  | house
  | apartment
  | office
  | warehouse
  | vehicle
  | storageUnit
deriving DecidableEq, Repr

/-- The wire text. -/
def PlaceKind.wire : PlaceKind → String
  | .house => "house"
  | .apartment => "apartment"
  | .office => "office"
  | .warehouse => "warehouse"
  | .vehicle => "vehicle"
  | .storageUnit => "storage_unit"

/-- The texts that stand for each member. -/
def PlaceKind.table : List (String × PlaceKind) :=
  [("house", .house), ("home", .house), ("apartment", .apartment), ("flat", .apartment),
   ("condo", .apartment), ("office", .office), ("work", .office), ("warehouse", .warehouse),
   ("vehicle", .vehicle), ("car", .vehicle), ("storage unit", .storageUnit),
   ("storage", .storageUnit)]

instance : Tag PlaceKind where
  all := [.house, .apartment, .office, .warehouse, .vehicle, .storageUnit]
  field := "location_type"
  wire := PlaceKind.wire
  table := PlaceKind.table
  table_ascii := by decide

/-- What a compartment is. -/
inductive CompartmentKind where
  | shelf
  | console
  | cabinet
  | closet
  | drawer
  | box
  | device
deriving DecidableEq, Repr

/-- The wire text. -/
def CompartmentKind.wire : CompartmentKind → String
  | .shelf => "shelf"
  | .console => "console"
  | .cabinet => "cabinet"
  | .closet => "closet"
  | .drawer => "drawer"
  | .box => "box"
  | .device => "device"

/-- The texts that stand for each member. -/
def CompartmentKind.table : List (String × CompartmentKind) :=
  [("shelf", .shelf), ("bookshelf", .shelf), ("console", .console), ("cabinet", .cabinet),
   ("tv stand", .cabinet), ("closet", .closet), ("drawer", .drawer), ("box", .box),
   ("bin", .box), ("device", .device)]

instance : Tag CompartmentKind where
  all := [.shelf, .console, .cabinet, .closet, .drawer, .box, .device]
  field := "sublocation_type"
  wire := CompartmentKind.wire
  table := CompartmentKind.table
  table_ascii := by decide

/-- Who runs a storefront. -/
inductive Platform where
  | steam
  | epicGames
  | gog
  | playstationNetwork
  | xboxLive
  | nintendoEshop
  | eaApp
  | ubisoftConnect
  | battleNet
  | amazonLuna
  | appleArcade
  | googlePlay
deriving DecidableEq, Repr

/-- The wire text. -/
def Platform.wire : Platform → String
  | .steam => "steam"
  | .epicGames => "epic_games"
  | .gog => "gog"
  | .playstationNetwork => "playstation_network"
  | .xboxLive => "xbox_live"
  | .nintendoEshop => "nintendo_eshop"
  | .eaApp => "ea_app"
  | .ubisoftConnect => "ubisoft_connect"
  | .battleNet => "battle_net"
  | .amazonLuna => "amazon_luna"
  | .appleArcade => "apple_arcade"
  | .googlePlay => "google_play"

/-- The texts that stand for each member. -/
def Platform.table : List (String × Platform) :=
  [("steam", .steam), ("valve", .steam), ("epic", .epicGames), ("epic games", .epicGames),
   ("epic games store", .epicGames), ("egs", .epicGames), ("gog", .gog), ("gog.com", .gog),
   ("good old games", .gog), ("playstation", .playstationNetwork),
   ("playstation network", .playstationNetwork), ("playstation plus", .playstationNetwork),
   ("psn", .playstationNetwork), ("ps plus", .playstationNetwork), ("xbox", .xboxLive),
   ("xbox live", .xboxLive), ("xbox game pass", .xboxLive), ("game pass", .xboxLive),
   ("microsoft store", .xboxLive), ("nintendo", .nintendoEshop),
   ("nintendo eshop", .nintendoEshop), ("eshop", .nintendoEshop),
   ("nintendo switch online", .nintendoEshop), ("ea", .eaApp), ("ea app", .eaApp),
   ("ea play", .eaApp), ("origin", .eaApp), ("ubisoft", .ubisoftConnect),
   ("ubisoft connect", .ubisoftConnect), ("ubisoft+", .ubisoftConnect),
   ("uplay", .ubisoftConnect), ("battle.net", .battleNet), ("battle net", .battleNet),
   ("battlenet", .battleNet), ("blizzard", .battleNet), ("amazon", .amazonLuna),
   ("amazon luna", .amazonLuna), ("luna", .amazonLuna), ("prime gaming", .amazonLuna),
   ("apple arcade", .appleArcade), ("google play", .googlePlay),
   ("google play pass", .googlePlay)]

instance : Tag Platform where
  all :=
    [.steam, .epicGames, .gog, .playstationNetwork, .xboxLive, .nintendoEshop,
     .eaApp, .ubisoftConnect, .battleNet, .amazonLuna, .appleArcade, .googlePlay]
  field := "platform"
  wire := Platform.wire
  table := Platform.table
  table_ascii := by decide

/-- How a storefront is paid. -/
inductive PaymentMethod where
  | generic
  | visa
  | mastercard
  | amex
  | discover
  | paypal
  | applePay
  | googlePay
  | amazonPay
  | alipay
deriving DecidableEq, Repr

/-- The wire text. -/
def PaymentMethod.wire : PaymentMethod → String
  | .generic => "generic"
  | .visa => "visa"
  | .mastercard => "mastercard"
  | .amex => "amex"
  | .discover => "discover"
  | .paypal => "paypal"
  | .applePay => "apple_pay"
  | .googlePay => "google_pay"
  | .amazonPay => "amazon_pay"
  | .alipay => "alipay"

/-- The texts that stand for each member. -/
def PaymentMethod.table : List (String × PaymentMethod) :=
  [("generic", .generic), ("card", .generic), ("visa", .visa), ("mastercard", .mastercard),
   ("master card", .mastercard), ("mc", .mastercard), ("amex", .amex),
   ("american express", .amex), ("discover", .discover), ("paypal", .paypal),
   ("apple pay", .applePay), ("applepay", .applePay), ("google pay", .googlePay),
   ("gpay", .googlePay), ("amazon pay", .amazonPay), ("alipay", .alipay)]

instance : Tag PaymentMethod where
  all :=
    [.generic, .visa, .mastercard, .amex, .discover,
     .paypal, .applePay, .googlePay, .amazonPay, .alipay]
  field := "payment_method"
  wire := PaymentMethod.wire
  table := PaymentMethod.table
  table_ascii := by decide

/-- How often a storefront is paid. -/
inductive BillingCycle where
  | monthly
  | quarterly
  | annually
deriving DecidableEq, Repr

/-- The wire text. -/
def BillingCycle.wire : BillingCycle → String
  | .monthly => "monthly"
  | .quarterly => "quarterly"
  | .annually => "annually"

/-- The texts that stand for each member. -/
def BillingCycle.table : List (String × BillingCycle) :=
  [("monthly", .monthly), ("month", .monthly), ("1 month", .monthly),
   ("quarterly", .quarterly), ("quarter", .quarterly), ("3 month", .quarterly),
   ("3 months", .quarterly), ("annually", .annually), ("annual", .annually),
   ("yearly", .annually), ("year", .annually), ("1 year", .annually),
   ("12 months", .annually)]

instance : Tag BillingCycle where
  all := [.monthly, .quarterly, .annually]
  field := "billing_cycle"
  wire := BillingCycle.wire
  table := BillingCycle.table
  table_ascii := by decide

/-- The colour of an icon. -/
inductive Color where
  | red
  | green
  | blue
  | gold
  | purple
  | orange
  | brown
  | gray
deriving DecidableEq, Repr

/-- The wire text. -/
def Color.wire : Color → String
  | .red => "red"
  | .green => "green"
  | .blue => "blue"
  | .gold => "gold"
  | .purple => "purple"
  | .orange => "orange"
  | .brown => "brown"
  | .gray => "gray"

/-- The texts that stand for each member. -/
def Color.table : List (String × Color) :=
  [("red", .red), ("green", .green), ("blue", .blue), ("gold", .gold), ("yellow", .gold),
   ("purple", .purple), ("violet", .purple), ("orange", .orange), ("brown", .brown),
   ("gray", .gray), ("grey", .gray)]

instance : Tag Color where
  all := [.red, .green, .blue, .gold, .purple, .orange, .brown, .gray]
  field := "color"
  wire := Color.wire
  table := Color.table
  table_ascii := by decide

end GameShelf
