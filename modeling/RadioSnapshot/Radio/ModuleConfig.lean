import RadioSnapshot.Schema.Message

/-!
# Module configuration sections

The settings of the optional modules, one module to a message. The name of a
section is the name of its member here.
-/

namespace RadioSnapshot.Radio

open Schema

/-- The message broker. Its password is secret. -/
def mqttConfig : MessageType := .mk "MqttConfig" <|
  .scalar 1 "enabled" .bool <|
  .scalar 2 "address" .string <|
  .scalar 3 "username" .string <|
  .secret 4 "password" .string <|
  .scalar 5 "encryption_enabled" .bool <|
  .scalar 6 "json_enabled" .bool <|
  .scalar 7 "tls_enabled" .bool <|
  .scalar 8 "root" .string <|
  .scalar 9 "proxy_to_client_enabled" .bool <|
  .scalar 10 "map_reporting_enabled" .bool <|
  .done

/-- The serial module. -/
def serialConfig : MessageType := .mk "SerialConfig" <|
  .scalar 1 "enabled" .bool <|
  .scalar 2 "echo" .bool <|
  .scalar 3 "rxd" .uint32 <|
  .scalar 4 "txd" .uint32 <|
  .scalar 5 "baud" .int32 <|
  .scalar 6 "timeout" .uint32 <|
  .scalar 7 "mode" .int32 <|
  .done

/-- Buzzers and lights. -/
def externalNotificationConfig : MessageType := .mk "ExternalNotificationConfig" <|
  .scalar 1 "enabled" .bool <|
  .scalar 2 "output_ms" .uint32 <|
  .scalar 3 "output" .uint32 <|
  .scalar 4 "active" .bool <|
  .scalar 5 "alert_message" .bool <|
  .scalar 6 "alert_bell" .bool <|
  .done

/-- Message history. -/
def storeForwardConfig : MessageType := .mk "StoreForwardConfig" <|
  .scalar 1 "enabled" .bool <|
  .scalar 2 "heartbeat" .bool <|
  .scalar 3 "records" .uint32 <|
  .scalar 4 "history_return_max" .uint32 <|
  .scalar 5 "history_return_window" .uint32 <|
  .done

/-- Range tests. -/
def rangeTestConfig : MessageType := .mk "RangeTestConfig" <|
  .scalar 1 "enabled" .bool <|
  .scalar 2 "sender" .uint32 <|
  .scalar 3 "save" .bool <|
  .done

/-- Telemetry intervals. -/
def telemetryConfig : MessageType := .mk "TelemetryConfig" <|
  .scalar 1 "device_update_interval" .uint32 <|
  .scalar 2 "environment_update_interval" .uint32 <|
  .scalar 3 "environment_measurement_enabled" .bool <|
  .scalar 4 "environment_screen_enabled" .bool <|
  .scalar 5 "environment_display_fahrenheit" .bool <|
  .scalar 6 "air_quality_enabled" .bool <|
  .scalar 7 "air_quality_interval" .uint32 <|
  .scalar 8 "power_measurement_enabled" .bool <|
  .done

/-- Prepared messages. -/
def cannedMessageConfig : MessageType := .mk "CannedMessageConfig" <|
  .scalar 1 "rotary1_enabled" .bool <|
  .scalar 8 "updown1_enabled" .bool <|
  .scalar 9 "enabled" .bool <|
  .scalar 10 "allow_input_source" .string <|
  .scalar 11 "send_bell" .bool <|
  .done

/-- Voice. -/
def audioConfig : MessageType := .mk "AudioConfig" <|
  .scalar 1 "codec2_enabled" .bool <|
  .scalar 2 "ptt_pin" .uint32 <|
  .scalar 3 "bitrate" .int32 <|
  .done

/-- Pins driven from afar. -/
def remoteHardwareConfig : MessageType := .mk "RemoteHardwareConfig" <|
  .scalar 1 "enabled" .bool <|
  .scalar 2 "allow_undefined_pin_access" .bool <|
  .done

/-- Neighbour lists. -/
def neighborInfoConfig : MessageType := .mk "NeighborInfoConfig" <|
  .scalar 1 "enabled" .bool <|
  .scalar 2 "update_interval" .uint32 <|
  .scalar 3 "transmit_over_lora" .bool <|
  .done

/-- Lights. -/
def ambientLightingConfig : MessageType := .mk "AmbientLightingConfig" <|
  .scalar 1 "led_state" .bool <|
  .scalar 2 "current" .uint32 <|
  .scalar 3 "red" .uint32 <|
  .scalar 4 "green" .uint32 <|
  .scalar 5 "blue" .uint32 <|
  .done

/-- Sensors that raise an alarm. -/
def detectionSensorConfig : MessageType := .mk "DetectionSensorConfig" <|
  .scalar 1 "enabled" .bool <|
  .scalar 2 "minimum_broadcast_secs" .uint32 <|
  .scalar 3 "state_broadcast_secs" .uint32 <|
  .scalar 4 "send_bell" .bool <|
  .scalar 5 "name" .string <|
  .done

/-- People counting. -/
def paxcounterConfig : MessageType := .mk "PaxcounterConfig" <|
  .scalar 1 "enabled" .bool <|
  .scalar 2 "paxcounter_update_interval" .uint32 <|
  .scalar 3 "wifi_threshold" .int32 <|
  .scalar 4 "ble_threshold" .int32 <|
  .done

/-- The module configuration sections, by name. -/
def moduleSections : Members :=
  .message 1 "mqtt" mqttConfig <|
  .message 2 "serial" serialConfig <|
  .message 3 "external_notification" externalNotificationConfig <|
  .message 4 "store_forward" storeForwardConfig <|
  .message 5 "range_test" rangeTestConfig <|
  .message 6 "telemetry" telemetryConfig <|
  .message 7 "canned_message" cannedMessageConfig <|
  .message 8 "audio" audioConfig <|
  .message 9 "remote_hardware" remoteHardwareConfig <|
  .message 10 "neighbor_info" neighborInfoConfig <|
  .message 11 "ambient_lighting" ambientLightingConfig <|
  .message 12 "detection_sensor" detectionSensorConfig <|
  .message 13 "paxcounter" paxcounterConfig <|
  .done

/-- One module configuration section. -/
def moduleConfig : MessageType := .mk "ModuleConfig" <|
  .choice [1, 2, 3, 4, 5, 6, 7, 8, 9, 10, 11, 12, 13] "payload_variant" .bare moduleSections <|
  .done

abbrev ModuleSection := moduleSections.Choice
abbrev ModuleConfig := moduleConfig.Record

def ModuleConfig.sectionOf (config : ModuleConfig) : Option ModuleSection := config.1

end RadioSnapshot.Radio
