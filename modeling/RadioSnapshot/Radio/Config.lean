import RadioSnapshot.Schema.Message

/-!
# Configuration sections

A radio sends its configuration in sections, one to a message. The name of a
section is the name of its member here.
-/

namespace RadioSnapshot.Radio

open Schema

/-- The role of the device on the mesh. -/
def deviceConfig : MessageType := .mk "DeviceConfig" <|
  .scalar 1 "role" .int32 <|
  .scalar 6 "rebroadcast_mode" .int32 <|
  .scalar 7 "node_info_broadcast_secs" .uint32 <|
  .scalar 8 "double_tap_as_button_press" .bool <|
  .scalar 10 "disable_triple_click" .bool <|
  .scalar 11 "tzdef" .string <|
  .scalar 12 "led_heartbeat_disabled" .bool <|
  .done

/-- When and how the position is sent. -/
def positionConfig : MessageType := .mk "PositionConfig" <|
  .scalar 1 "position_broadcast_secs" .uint32 <|
  .scalar 2 "position_broadcast_smart_enabled" .bool <|
  .scalar 3 "fixed_position" .bool <|
  .scalar 5 "gps_update_interval" .uint32 <|
  .scalar 7 "position_flags" .uint32 <|
  .scalar 13 "gps_mode" .int32 <|
  .done

/-- Sleep and battery settings. -/
def powerConfig : MessageType := .mk "PowerConfig" <|
  .scalar 1 "is_power_saving" .bool <|
  .scalar 2 "on_battery_shutdown_after_secs" .uint32 <|
  .scalar 3 "adc_multiplier_override" .float <|
  .scalar 4 "wait_bluetooth_secs" .uint32 <|
  .scalar 6 "sds_secs" .uint32 <|
  .scalar 7 "ls_secs" .uint32 <|
  .scalar 8 "min_wake_secs" .uint32 <|
  .done

/-- Wireless and wired network settings. The pass phrase is secret. -/
def networkConfig : MessageType := .mk "NetworkConfig" <|
  .scalar 1 "wifi_enabled" .bool <|
  .scalar 3 "wifi_ssid" .string <|
  .secret 4 "wifi_psk" .string <|
  .scalar 5 "ntp_server" .string <|
  .scalar 6 "eth_enabled" .bool <|
  .scalar 7 "address_mode" .int32 <|
  .done

/-- The screen. -/
def displayConfig : MessageType := .mk "DisplayConfig" <|
  .scalar 1 "screen_on_secs" .uint32 <|
  .scalar 2 "gps_format" .int32 <|
  .scalar 3 "auto_screen_carousel_secs" .uint32 <|
  .scalar 4 "compass_north_top" .bool <|
  .scalar 5 "flip_screen" .bool <|
  .scalar 6 "units" .int32 <|
  .done

/-- The long-range modem. -/
def loraConfig : MessageType := .mk "LoRaConfig" <|
  .scalar 1 "use_preset" .bool <|
  .scalar 2 "modem_preset" .int32 <|
  .scalar 3 "bandwidth" .uint32 <|
  .scalar 4 "spread_factor" .uint32 <|
  .scalar 5 "coding_rate" .uint32 <|
  .scalar 6 "frequency_offset" .float <|
  .scalar 7 "region" .int32 <|
  .scalar 8 "hop_limit" .uint32 <|
  .scalar 9 "tx_enabled" .bool <|
  .scalar 10 "tx_power" .int32 <|
  .scalar 11 "channel_num" .uint32 <|
  .scalar 12 "override_duty_cycle" .bool <|
  .done

/-- Pairing. The fixed pin is secret. -/
def bluetoothConfig : MessageType := .mk "BluetoothConfig" <|
  .scalar 1 "enabled" .bool <|
  .scalar 2 "mode" .int32 <|
  .secret 3 "fixed_pin" .uint32 <|
  .done

/-- Keys and administration. The private key is secret. -/
def securityConfig : MessageType := .mk "SecurityConfig" <|
  .scalar 1 "public_key" .bytes <|
  .secret 2 "private_key" .bytes <|
  .byteStrings 3 "admin_key" <|
  .scalar 4 "is_managed" .bool <|
  .scalar 5 "serial_enabled" .bool <|
  .scalar 6 "debug_log_api_enabled" .bool <|
  .scalar 8 "admin_channel_enabled" .bool <|
  .done

/-- The configuration sections, by name. -/
def configSections : Members :=
  .message 1 "device" deviceConfig <|
  .message 2 "position" positionConfig <|
  .message 3 "power" powerConfig <|
  .message 4 "network" networkConfig <|
  .message 5 "display" displayConfig <|
  .message 6 "lora" loraConfig <|
  .message 7 "bluetooth" bluetoothConfig <|
  .message 8 "security" securityConfig <|
  .done

/-- One configuration section. -/
def config : MessageType := .mk "Config" <|
  .choice [1, 2, 3, 4, 5, 6, 7, 8] "payload_variant" .bare configSections <|
  .done

abbrev ConfigSection := configSections.Choice
abbrev Config := config.Record

def Config.sectionOf (config : Config) : Option ConfigSection := config.1

end RadioSnapshot.Radio
