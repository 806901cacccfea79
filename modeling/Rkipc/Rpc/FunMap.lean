import Rkipc.Rpc.Handlers

namespace Rkipc.Rpc

/-! The handlers of the socket server and its table of function names. -/

structure FunMap where
  funName : String
  serve : Handler

def serRkIspSet : Handler := logJson

def serRkVideoSet : Handler := logJson

def serRkAudioSet : Handler := logJson

def mapGeneral : List FunMap := [
    ⟨"rk_isp_set", serRkIspSet⟩,
    ⟨"rk_video_set", serRkVideoSet⟩,
    ⟨"rk_audio_set", serRkAudioSet⟩]

/-! isp scenario -/

def serRkIspGetScenario : Handler := getStringById "rk_isp_get_scenario"

def serRkIspSetScenario : Handler := setStringById "rk_isp_set_scenario"

def mapIspScenario : List FunMap := [
    ⟨"rk_isp_get_scenario", serRkIspGetScenario⟩,
    ⟨"rk_isp_set_scenario", serRkIspSetScenario⟩]

/-! isp adjustment -/

def serRkIspGetContrast : Handler := getWordById "rk_isp_get_contrast"

def serRkIspSetContrast : Handler := setWordById "rk_isp_set_contrast"

def serRkIspGetBrightness : Handler := getWordById "rk_isp_get_brightness"

def serRkIspSetBrightness : Handler := setWordById "rk_isp_set_brightness"

def serRkIspGetSaturation : Handler := getWordById "rk_isp_get_saturation"

def serRkIspSetSaturation : Handler := setWordById "rk_isp_set_saturation"

def serRkIspGetSharpness : Handler := getWordById "rk_isp_get_sharpness"

def serRkIspSetSharpness : Handler := setWordById "rk_isp_set_sharpness"

def serRkIspGetHue : Handler := getWordById "rk_isp_get_hue"

def serRkIspSetHue : Handler := setWordById "rk_isp_set_hue"

def mapIspAdjustment : List FunMap := [
    ⟨"rk_isp_get_contrast", serRkIspGetContrast⟩,
    ⟨"rk_isp_set_contrast", serRkIspSetContrast⟩,
    ⟨"rk_isp_get_brightness", serRkIspGetBrightness⟩,
    ⟨"rk_isp_set_brightness", serRkIspSetBrightness⟩,
    ⟨"rk_isp_get_saturation", serRkIspGetSaturation⟩,
    ⟨"rk_isp_set_saturation", serRkIspSetSaturation⟩,
    ⟨"rk_isp_get_sharpness", serRkIspGetSharpness⟩,
    ⟨"rk_isp_set_sharpness", serRkIspSetSharpness⟩,
    ⟨"rk_isp_get_hue", serRkIspGetHue⟩,
    ⟨"rk_isp_set_hue", serRkIspSetHue⟩]

/-! isp exposure -/

def serRkIspGetExposureMode : Handler := getStringById "rk_isp_get_exposure_mode"

def serRkIspSetExposureMode : Handler := setStringById "rk_isp_set_exposure_mode"

def serRkIspGetGainMode : Handler := getStringById "rk_isp_get_gain_mode"

def serRkIspSetGainMode : Handler := setStringById "rk_isp_set_gain_mode"

def serRkIspGetExposureTime : Handler := getStringById "rk_isp_get_exposure_time"

def serRkIspSetExposureTime : Handler := setStringById "rk_isp_set_exposure_time"

def serRkIspGetExposureGain : Handler := getWordById "rk_isp_get_exposure_gain"

def serRkIspSetExposureGain : Handler := setWordById "rk_isp_set_exposure_gain"

def serRkIspGetFrameRate : Handler := getWordById "rk_isp_get_frame_rate"

def serRkIspSetFrameRate : Handler := setWordById "rk_isp_set_frame_rate"

def mapIspExposure : List FunMap := [
    ⟨"rk_isp_get_exposure_mode", serRkIspGetExposureMode⟩,
    ⟨"rk_isp_set_exposure_mode", serRkIspSetExposureMode⟩,
    ⟨"rk_isp_get_gain_mode", serRkIspGetGainMode⟩,
    ⟨"rk_isp_set_gain_mode", serRkIspSetGainMode⟩,
    ⟨"rk_isp_get_exposure_time", serRkIspGetExposureTime⟩,
    ⟨"rk_isp_set_exposure_time", serRkIspSetExposureTime⟩,
    ⟨"rk_isp_get_exposure_gain", serRkIspGetExposureGain⟩,
    ⟨"rk_isp_set_exposure_gain", serRkIspSetExposureGain⟩,
    ⟨"rk_isp_get_frame_rate", serRkIspGetFrameRate⟩,
    ⟨"rk_isp_set_frame_rate", serRkIspSetFrameRate⟩]

/-! isp night_to_day -/

def serRkIspGetNightToDay : Handler := getStringById "rk_isp_get_night_to_day"

def serRkIspSetNightToDay : Handler := setStringById "rk_isp_set_night_to_day"

def serRkIspGetFillLightMode : Handler := getStringById "rk_isp_get_fill_light_mode"

def serRkIspSetFillLightMode : Handler := setStringById "rk_isp_set_fill_light_mode"

def serRkIspGetLightBrightness : Handler := getWordById "rk_isp_get_light_brightness"

def serRkIspSetLightBrightness : Handler := setWordById "rk_isp_set_light_brightness"

def serRkIspGetNightToDayFilterLevel : Handler :=
  getWordById "rk_isp_get_night_to_day_filter_level"

def serRkIspSetNightToDayFilterLevel : Handler :=
  setWordById "rk_isp_set_night_to_day_filter_level"

def serRkIspGetNightToDayFilterTime : Handler :=
  getWordById "rk_isp_get_night_to_day_filter_time"

def serRkIspSetNightToDayFilterTime : Handler :=
  setWordById "rk_isp_set_night_to_day_filter_time"

def mapIspNightToDay : List FunMap := [
    ⟨"rk_isp_get_night_to_day", serRkIspGetNightToDay⟩,
    ⟨"rk_isp_set_night_to_day", serRkIspSetNightToDay⟩,
    ⟨"rk_isp_get_fill_light_mode", serRkIspGetFillLightMode⟩,
    ⟨"rk_isp_set_fill_light_mode", serRkIspSetFillLightMode⟩,
    ⟨"rk_isp_get_light_brightness", serRkIspGetLightBrightness⟩,
    ⟨"rk_isp_set_light_brightness", serRkIspSetLightBrightness⟩,
    ⟨"rk_isp_get_night_to_day_filter_level", serRkIspGetNightToDayFilterLevel⟩,
    ⟨"rk_isp_set_night_to_day_filter_level", serRkIspSetNightToDayFilterLevel⟩,
    ⟨"rk_isp_get_night_to_day_filter_time", serRkIspGetNightToDayFilterTime⟩,
    ⟨"rk_isp_set_night_to_day_filter_time", serRkIspSetNightToDayFilterTime⟩]

/-! isp blc -/

def serRkIspGetHdr : Handler := getStringById "rk_isp_get_hdr"

def serRkIspGetBlcRegion : Handler := getStringById "rk_isp_get_blc_region"

def serRkIspSetBlcRegion : Handler := setStringById "rk_isp_set_blc_region"

def serRkIspGetHlc : Handler := getStringById "rk_isp_get_hlc"

def serRkIspSetHlc : Handler := setStringById "rk_isp_set_hlc"

def serRkIspGetHdrLevel : Handler := getWordById "rk_isp_get_hdr_level"

def serRkIspSetHdrLevel : Handler := setWordById "rk_isp_set_hdr_level"

def serRkIspGetBlcStrength : Handler := getWordById "rk_isp_get_blc_strength"

def serRkIspSetBlcStrength : Handler := setWordById "rk_isp_set_blc_strength"

def serRkIspGetHlcLevel : Handler := getWordById "rk_isp_get_hlc_level"

def serRkIspSetHlcLevel : Handler := setWordById "rk_isp_set_hlc_level"

def serRkIspGetDarkBoostLevel : Handler := getWordById "rk_isp_get_dark_boost_level"

def serRkIspSetDarkBoostLevel : Handler := setWordById "rk_isp_set_dark_boost_level"

def mapIspBlc : List FunMap := [
    ⟨"rk_isp_get_hdr", serRkIspGetHdr⟩,
    ⟨"rk_isp_set_hdr", serRkIspSetHdr⟩,
    ⟨"rk_isp_get_blc_region", serRkIspGetBlcRegion⟩,
    ⟨"rk_isp_set_blc_region", serRkIspSetBlcRegion⟩,
    ⟨"rk_isp_get_hlc", serRkIspGetHlc⟩,
    ⟨"rk_isp_set_hlc", serRkIspSetHlc⟩,
    ⟨"rk_isp_get_hdr_level", serRkIspGetHdrLevel⟩,
    ⟨"rk_isp_set_hdr_level", serRkIspSetHdrLevel⟩,
    ⟨"rk_isp_get_blc_strength", serRkIspGetBlcStrength⟩,
    ⟨"rk_isp_set_blc_strength", serRkIspSetBlcStrength⟩,
    ⟨"rk_isp_get_hlc_level", serRkIspGetHlcLevel⟩,
    ⟨"rk_isp_set_hlc_level", serRkIspSetHlcLevel⟩,
    ⟨"rk_isp_get_dark_boost_level", serRkIspGetDarkBoostLevel⟩,
    ⟨"rk_isp_set_dark_boost_level", serRkIspSetDarkBoostLevel⟩]

/-! isp white_blance -/

def serRkIspGetWhiteBlanceStyle : Handler := getStringById "rk_isp_get_white_blance_style"

def serRkIspSetWhiteBlanceStyle : Handler := setStringById "rk_isp_set_white_blance_style"

def serRkIspGetWhiteBlanceRed : Handler := getWordById "rk_isp_get_white_blance_red"

def serRkIspSetWhiteBlanceRed : Handler := setWordById "rk_isp_set_white_blance_red"

def serRkIspGetWhiteBlanceGreen : Handler := getWordById "rk_isp_get_white_blance_green"

def serRkIspSetWhiteBlanceGreen : Handler := setWordById "rk_isp_set_white_blance_green"

def serRkIspGetWhiteBlanceBlue : Handler := getWordById "rk_isp_get_white_blance_blue"

def serRkIspSetWhiteBlanceBlue : Handler := setWordById "rk_isp_set_white_blance_blue"

def mapIspWhiteBlance : List FunMap := [
    ⟨"rk_isp_get_white_blance_style", serRkIspGetWhiteBlanceStyle⟩,
    ⟨"rk_isp_set_white_blance_style", serRkIspSetWhiteBlanceStyle⟩,
    ⟨"rk_isp_get_white_blance_red", serRkIspGetWhiteBlanceRed⟩,
    ⟨"rk_isp_set_white_blance_red", serRkIspSetWhiteBlanceRed⟩,
    ⟨"rk_isp_get_white_blance_green", serRkIspGetWhiteBlanceGreen⟩,
    ⟨"rk_isp_set_white_blance_green", serRkIspSetWhiteBlanceGreen⟩,
    ⟨"rk_isp_get_white_blance_blue", serRkIspGetWhiteBlanceBlue⟩,
    ⟨"rk_isp_set_white_blance_blue", serRkIspSetWhiteBlanceBlue⟩]

/-! isp enhancement -/

def serRkIspGetNoiseReduceMode : Handler := getStringById "rk_isp_get_noise_reduce_mode"

def serRkIspSetNoiseReduceMode : Handler := setStringById "rk_isp_set_noise_reduce_mode"

def serRkIspGetDehaze : Handler := getStringById "rk_isp_get_dehaze"

def serRkIspSetDehaze : Handler := setStringById "rk_isp_set_dehaze"

def serRkIspGetGrayScaleMode : Handler := getStringById "rk_isp_get_gray_scale_mode"

def serRkIspSetGrayScaleMode : Handler := setStringById "rk_isp_set_gray_scale_mode"

def serRkIspGetDistortionCorrection : Handler :=
  getStringById "rk_isp_get_distortion_correction"

def serRkIspSetDistortionCorrection : Handler :=
  setStringById "rk_isp_set_distortion_correction"

def serRkIspGetSpatialDenoiseLevel : Handler :=
  getWordById "rk_isp_get_spatial_denoise_level"

def serRkIspSetSpatialDenoiseLevel : Handler :=
  setWordById "rk_isp_set_spatial_denoise_level"

def serRkIspGetTemporalDenoiseLevel : Handler :=
  getWordById "rk_isp_get_temporal_denoise_level"

def serRkIspSetTemporalDenoiseLevel : Handler :=
  setWordById "rk_isp_set_temporal_denoise_level"

def serRkIspGetDehazeLevel : Handler := getWordById "rk_isp_get_dehaze_level"

def serRkIspSetDehazeLevel : Handler := setWordById "rk_isp_set_dehaze_level"

def serRkIspGetFecLevel : Handler := getWordById "rk_isp_get_fec_level"

def serRkIspSetFecLevel : Handler := setWordById "rk_isp_set_fec_level"

def serRkIspGetLdchLevel : Handler := getWordById "rk_isp_get_ldch_level"

def serRkIspSetLdchLevel : Handler := setWordById "rk_isp_set_ldch_level"

def mapIspEnhancement : List FunMap := [
    ⟨"rk_isp_get_noise_reduce_mode", serRkIspGetNoiseReduceMode⟩,
    ⟨"rk_isp_set_noise_reduce_mode", serRkIspSetNoiseReduceMode⟩,
    ⟨"rk_isp_get_dehaze", serRkIspGetDehaze⟩,
    ⟨"rk_isp_set_dehaze", serRkIspSetDehaze⟩,
    ⟨"rk_isp_get_gray_scale_mode", serRkIspGetGrayScaleMode⟩,
    ⟨"rk_isp_set_gray_scale_mode", serRkIspSetGrayScaleMode⟩,
    ⟨"rk_isp_get_distortion_correction", serRkIspGetDistortionCorrection⟩,
    ⟨"rk_isp_set_distortion_correction", serRkIspSetDistortionCorrection⟩,
    ⟨"rk_isp_get_spatial_denoise_level", serRkIspGetSpatialDenoiseLevel⟩,
    ⟨"rk_isp_set_spatial_denoise_level", serRkIspSetSpatialDenoiseLevel⟩,
    ⟨"rk_isp_get_temporal_denoise_level", serRkIspGetTemporalDenoiseLevel⟩,
    ⟨"rk_isp_set_temporal_denoise_level", serRkIspSetTemporalDenoiseLevel⟩,
    ⟨"rk_isp_get_dehaze_level", serRkIspGetDehazeLevel⟩,
    ⟨"rk_isp_set_dehaze_level", serRkIspSetDehazeLevel⟩,
    ⟨"rk_isp_get_fec_level", serRkIspGetFecLevel⟩,
    ⟨"rk_isp_set_fec_level", serRkIspSetFecLevel⟩,
    ⟨"rk_isp_get_ldch_level", serRkIspGetLdchLevel⟩,
    ⟨"rk_isp_set_ldch_level", serRkIspSetLdchLevel⟩]

/-! isp video_adjustment -/

def serRkIspGetPowerLineFrequencyMode : Handler :=
  getStringById "rk_isp_get_power_line_frequency_mode"

def serRkIspSetPowerLineFrequencyMode : Handler :=
  setStringById "rk_isp_set_power_line_frequency_mode"

def serRkIspGetImageFlip : Handler := getStringById "rk_isp_get_image_flip"

def serRkIspSetImageFlip : Handler := setStringById "rk_isp_set_image_flip"

def mapIspVideoAdjustment : List FunMap := [
    ⟨"rk_isp_get_power_line_frequency_mode", serRkIspGetPowerLineFrequencyMode⟩,
    ⟨"rk_isp_set_power_line_frequency_mode", serRkIspSetPowerLineFrequencyMode⟩,
    ⟨"rk_isp_get_image_flip", serRkIspGetImageFlip⟩,
    ⟨"rk_isp_set_image_flip", serRkIspSetImageFlip⟩]

/-! isp auto focus -/

def serRkIspGetAfMode : Handler := getStringById "rk_isp_get_af_mode"

def serRkIspSetAfMode : Handler := setStringById "rk_isp_set_af_mode"

def serRkIspGetZoomLevel : Handler := getWordById "rk_isp_get_zoom_level"

def serRkIspGetFocusLevel : Handler := getWordById "rk_isp_get_focus_level"

def serRkIspAfZoomIn : Handler := setWord "rk_isp_af_zoom_in"

def serRkIspAfZoomOut : Handler := setWord "rk_isp_af_zoom_out"

def serRkIspAfFocusIn : Handler := setWord "rk_isp_af_focus_in"

def serRkIspAfFocusOut : Handler := setWord "rk_isp_af_focus_out"

def serRkIspAfFocusOnce : Handler := setWord "rk_isp_af_focus_once"

def mapIspAutoFocus : List FunMap := [
    ⟨"rk_isp_get_af_mode", serRkIspGetAfMode⟩,
    ⟨"rk_isp_set_af_mode", serRkIspSetAfMode⟩,
    ⟨"rk_isp_get_zoom_level", serRkIspGetZoomLevel⟩,
    ⟨"rk_isp_get_focus_level", serRkIspGetFocusLevel⟩,
    ⟨"rk_isp_af_zoom_in", serRkIspAfZoomIn⟩,
    ⟨"rk_isp_af_zoom_out", serRkIspAfZoomOut⟩,
    ⟨"rk_isp_af_focus_in", serRkIspAfFocusIn⟩,
    ⟨"rk_isp_af_focus_out", serRkIspAfFocusOut⟩,
    ⟨"rk_isp_af_focus_once", serRkIspAfFocusOnce⟩]

/-! audio -/

def serRkAudioRestart : Handler := replyStatus "rk_audio_restart" []

def serRkAudioGetBitRate : Handler := getWordById "rk_audio_get_bit_rate"

def serRkAudioSetBitRate : Handler := setWordById "rk_audio_set_bit_rate"

def serRkAudioGetSampleRate : Handler := getWordById "rk_audio_get_sample_rate"

def serRkAudioSetSampleRate : Handler := setWordById "rk_audio_set_sample_rate"

def serRkAudioGetVolume : Handler := getWordById "rk_audio_get_volume"

def serRkAudioSetVolume : Handler := setWordById "rk_audio_set_volume"

def serRkAudioGetEnableVqe : Handler := getWordById "rk_audio_get_enable_vqe"

def serRkAudioSetEnableVqe : Handler := setWordById "rk_audio_set_enable_vqe"

def serRkAudioGetEncodeType : Handler := getStringById "rk_audio_get_encode_type"

def serRkAudioSetEncodeType : Handler := setStringById "rk_audio_set_encode_type"

def mapAudio : List FunMap := [
    ⟨"rk_audio_restart", serRkAudioRestart⟩,
    ⟨"rk_audio_get_bit_rate", serRkAudioGetBitRate⟩,
    ⟨"rk_audio_set_bit_rate", serRkAudioSetBitRate⟩,
    ⟨"rk_audio_get_sample_rate", serRkAudioGetSampleRate⟩,
    ⟨"rk_audio_set_sample_rate", serRkAudioSetSampleRate⟩,
    ⟨"rk_audio_get_volume", serRkAudioGetVolume⟩,
    ⟨"rk_audio_set_volume", serRkAudioSetVolume⟩,
    ⟨"rk_audio_get_enable_vqe", serRkAudioGetEnableVqe⟩,
    ⟨"rk_audio_set_enable_vqe", serRkAudioSetEnableVqe⟩,
    ⟨"rk_audio_get_encode_type", serRkAudioGetEncodeType⟩,
    ⟨"rk_audio_set_encode_type", serRkAudioSetEncodeType⟩]

/-! video -/

def serRkVideoRestart : Handler := replyStatus "rk_video_restart" []

def serRkVideoGetGop : Handler := getWordById "rk_video_get_gop"

def serRkVideoSetGop : Handler := setWordById "rk_video_set_gop"

def serRkVideoGetMaxRate : Handler := getWordById "rk_video_get_max_rate"

def serRkVideoSetMaxRate : Handler := setWordById "rk_video_set_max_rate"

def serRkVideoGetRCMode : Handler := getStringById "rk_video_get_RC_mode"

def serRkVideoSetRCMode : Handler := setStringById "rk_video_set_RC_mode"

def serRkVideoGetOutputDataType : Handler := getStringById "rk_video_get_output_data_type"

def serRkVideoSetOutputDataType : Handler := setStringById "rk_video_set_output_data_type"

def serRkVideoGetRcQuality : Handler := getStringById "rk_video_get_rc_quality"

def serRkVideoSetRcQuality : Handler := setStringById "rk_video_set_rc_quality"

def serRkVideoGetSmart : Handler := getStringById "rk_video_get_smart"

def serRkVideoSetSmart : Handler := setStringById "rk_video_set_smart"

def serRkVideoGetGopMode : Handler := getStringById "rk_video_get_gop_mode"

def serRkVideoSetGopMode : Handler := setStringById "rk_video_set_gop_mode"

def serRkVideoGetStreamType : Handler := getStringById "rk_video_get_stream_type"

def serRkVideoSetStreamType : Handler := setStringById "rk_video_set_stream_type"

def serRkVideoGetH264Profile : Handler := getStringById "rk_video_get_h264_profile"

def serRkVideoSetH264Profile : Handler := setStringById "rk_video_set_h264_profile"

def serRkVideoSetResolution : Handler := setStringById "rk_video_set_resolution"

def serRkVideoGetFrameRate : Handler := getStringById "rk_video_get_frame_rate"

def serRkVideoSetFrameRate : Handler := setStringById "rk_video_set_frame_rate"

def serRkVideoGetFrameRateIn : Handler := getStringById "rk_video_get_frame_rate_in"

def serRkVideoSetFrameRateIn : Handler := setStringById "rk_video_set_frame_rate_in"

def serRkVideoGetRotation : Handler := replyWord "rk_video_get_rotation" []

def serRkVideoSetRotation : Handler := setWord "rk_video_set_rotation"

def mapVideo : List FunMap := [
    ⟨"rk_video_restart", serRkVideoRestart⟩,
    ⟨"rk_video_get_gop", serRkVideoGetGop⟩,
    ⟨"rk_video_set_gop", serRkVideoSetGop⟩,
    ⟨"rk_video_get_max_rate", serRkVideoGetMaxRate⟩,
    ⟨"rk_video_set_max_rate", serRkVideoSetMaxRate⟩,
    ⟨"rk_video_get_RC_mode", serRkVideoGetRCMode⟩,
    ⟨"rk_video_set_RC_mode", serRkVideoSetRCMode⟩,
    ⟨"rk_video_get_output_data_type", serRkVideoGetOutputDataType⟩,
    ⟨"rk_video_set_output_data_type", serRkVideoSetOutputDataType⟩,
    ⟨"rk_video_get_rc_quality", serRkVideoGetRcQuality⟩,
    ⟨"rk_video_set_rc_quality", serRkVideoSetRcQuality⟩,
    ⟨"rk_video_get_smart", serRkVideoGetSmart⟩,
    ⟨"rk_video_set_smart", serRkVideoSetSmart⟩,
    ⟨"rk_video_get_gop_mode", serRkVideoGetGopMode⟩,
    ⟨"rk_video_set_gop_mode", serRkVideoSetGopMode⟩,
    ⟨"rk_video_get_stream_type", serRkVideoGetStreamType⟩,
    ⟨"rk_video_set_stream_type", serRkVideoSetStreamType⟩,
    ⟨"rk_video_get_h264_profile", serRkVideoGetH264Profile⟩,
    ⟨"rk_video_set_h264_profile", serRkVideoSetH264Profile⟩,
    ⟨"rk_video_get_resolution", serRkVideoGetResolution⟩,
    ⟨"rk_video_set_resolution", serRkVideoSetResolution⟩,
    ⟨"rk_video_get_frame_rate", serRkVideoGetFrameRate⟩,
    ⟨"rk_video_set_frame_rate", serRkVideoSetFrameRate⟩,
    ⟨"rk_video_get_frame_rate_in", serRkVideoGetFrameRateIn⟩,
    ⟨"rk_video_set_frame_rate_in", serRkVideoSetFrameRateIn⟩,
    ⟨"rk_video_get_rotation", serRkVideoGetRotation⟩,
    ⟨"rk_video_set_rotation", serRkVideoSetRotation⟩]

/-! jpeg -/

def serRkVideoGetEnableCycleSnapshot : Handler :=
  replyWord "rk_video_get_enable_cycle_snapshot" []

def serRkVideoSetEnableCycleSnapshot : Handler :=
  setWord "rk_video_set_enable_cycle_snapshot"

def serRkVideoGetImageQuality : Handler := replyWord "rk_video_get_image_quality" []

def serRkVideoSetImageQuality : Handler := setWord "rk_video_set_image_quality"

def serRkVideoGetSnapshotIntervalMs : Handler :=
  replyWord "rk_video_get_snapshot_interval_ms" []

def serRkVideoSetSnapshotIntervalMs : Handler :=
  setWord "rk_video_set_snapshot_interval_ms"

def serRkVideoGetJpegResolution : Handler := replyString "rk_video_get_jpeg_resolution" []

def serRkVideoSetJpegResolution : Handler := setString "rk_video_set_jpeg_resolution"

def mapJpeg : List FunMap := [
    ⟨"rk_video_get_enable_cycle_snapshot", serRkVideoGetEnableCycleSnapshot⟩,
    ⟨"rk_video_set_enable_cycle_snapshot", serRkVideoSetEnableCycleSnapshot⟩,
    ⟨"rk_video_get_image_quality", serRkVideoGetImageQuality⟩,
    ⟨"rk_video_set_image_quality", serRkVideoSetImageQuality⟩,
    ⟨"rk_video_get_snapshot_interval_ms", serRkVideoGetSnapshotIntervalMs⟩,
    ⟨"rk_video_set_snapshot_interval_ms", serRkVideoSetSnapshotIntervalMs⟩,
    ⟨"rk_video_get_jpeg_resolution", serRkVideoGetJpegResolution⟩,
    ⟨"rk_video_set_jpeg_resolution", serRkVideoSetJpegResolution⟩]

/-! osd.common -/

def serRkOsdGetIsPresistentText : Handler := replyWord "rk_osd_get_is_presistent_text" []

def serRkOsdSetIsPresistentText : Handler := setWord "rk_osd_set_is_presistent_text"

def serRkOsdGetFontSize : Handler := replyWord "rk_osd_get_font_size" []

def serRkOsdSetFontSize : Handler := setWord "rk_osd_set_font_size"

def serRkOsdGetBoundary : Handler := replyWord "rk_osd_get_boundary" []

def serRkOsdSetBoundary : Handler := setWord "rk_osd_set_boundary"

def serRkOsdGetNormalizedScreenWidth : Handler :=
  replyWord "rk_osd_get_normalized_screen_width" []

def serRkOsdGetNormalizedScreenHeight : Handler :=
  replyWord "rk_osd_get_normalized_screen_height" []

def serRkOsdGetAttribute : Handler := replyString "rk_osd_get_attribute" []

def serRkOsdSetAttribute : Handler := setString "rk_osd_set_attribute"

def serRkOsdGetFontColorMode : Handler := replyString "rk_osd_get_font_color_mode" []

def serRkOsdSetFontColorMode : Handler := setString "rk_osd_set_font_color_mode"

def serRkOsdGetFontColor : Handler := replyString "rk_osd_get_font_color" []

def serRkOsdSetFontColor : Handler := setString "rk_osd_set_font_color"

def serRkOsdGetAlignment : Handler := replyString "rk_osd_get_alignment" []

def serRkOsdSetAlignment : Handler := setString "rk_osd_set_alignment"

def serRkOsdGetFontPath : Handler := replyString "rk_osd_get_font_path" []

def serRkOsdSetFontPath : Handler := setString "rk_osd_set_font_path"

def mapOsdCommon : List FunMap := [
    ⟨"rk_osd_get_is_presistent_text", serRkOsdGetIsPresistentText⟩,
    ⟨"rk_osd_set_is_presistent_text", serRkOsdSetIsPresistentText⟩,
    ⟨"rk_osd_get_font_size", serRkOsdGetFontSize⟩,
    ⟨"rk_osd_set_font_size", serRkOsdSetFontSize⟩,
    ⟨"rk_osd_get_boundary", serRkOsdGetBoundary⟩,
    ⟨"rk_osd_set_boundary", serRkOsdSetBoundary⟩,
    ⟨"rk_osd_get_normalized_screen_width", serRkOsdGetNormalizedScreenWidth⟩,
    ⟨"rk_osd_get_normalized_screen_height", serRkOsdGetNormalizedScreenHeight⟩,
    ⟨"rk_osd_get_attribute", serRkOsdGetAttribute⟩,
    ⟨"rk_osd_set_attribute", serRkOsdSetAttribute⟩,
    ⟨"rk_osd_get_font_color_mode", serRkOsdGetFontColorMode⟩,
    ⟨"rk_osd_set_font_color_mode", serRkOsdSetFontColorMode⟩,
    ⟨"rk_osd_get_font_color", serRkOsdGetFontColor⟩,
    ⟨"rk_osd_set_font_color", serRkOsdSetFontColor⟩,
    ⟨"rk_osd_get_alignment", serRkOsdGetAlignment⟩,
    ⟨"rk_osd_set_alignment", serRkOsdSetAlignment⟩,
    ⟨"rk_osd_get_font_path", serRkOsdGetFontPath⟩,
    ⟨"rk_osd_set_font_path", serRkOsdSetFontPath⟩]

/-! osd.x -/

def serRkOsdGetEnabled : Handler := getWordById "rk_osd_get_enabled"

def serRkOsdSetEnabled : Handler := setWordById "rk_osd_set_enabled"

def serRkOsdGetPositionX : Handler := getWordById "rk_osd_get_position_x"

def serRkOsdSetPositionX : Handler := setWordById "rk_osd_set_position_x"

def serRkOsdGetPositionY : Handler := getWordById "rk_osd_get_position_y"

def serRkOsdSetPositionY : Handler := setWordById "rk_osd_set_position_y"

def serRkOsdGetHeight : Handler := getWordById "rk_osd_get_height"

def serRkOsdSetHeight : Handler := setWordById "rk_osd_set_height"

def serRkOsdGetWidth : Handler := getWordById "rk_osd_get_width"

def serRkOsdSetWidth : Handler := setWordById "rk_osd_set_width"

def serRkOsdGetDisplayWeekEnabled : Handler :=
  getWordById "rk_osd_get_display_week_enabled"

def serRkOsdSetDisplayWeekEnabled : Handler :=
  setWordById "rk_osd_set_display_week_enabled"

def serRkOsdGetDateStyle : Handler := getStringById "rk_osd_get_date_style"

def serRkOsdSetDateStyle : Handler := setStringById "rk_osd_set_date_style"

def serRkOsdGetTimeStyle : Handler := getStringById "rk_osd_get_time_style"

def serRkOsdSetTimeStyle : Handler := setStringById "rk_osd_set_time_style"

def serRkOsdGetType : Handler := getStringById "rk_osd_get_type"

def serRkOsdSetType : Handler := setStringById "rk_osd_set_type"

def serRkOsdGetDisplayText : Handler := getStringById "rk_osd_get_display_text"

def serRkOsdSetDisplayText : Handler := setStringById "rk_osd_set_display_text"

def serRkOsdGetImagePath : Handler := getStringById "rk_osd_get_image_path"

def serRkOsdSetImagePath : Handler := setStringById "rk_osd_set_image_path"

def serRkOsdGetStyle : Handler := getStringById "rk_osd_get_style"

def serRkOsdSetStyle : Handler := setStringById "rk_osd_set_style"

def serRkOsdRestart : Handler := replyStatus "rk_osd_restart" []

def mapOsd : List FunMap := [
    ⟨"rk_osd_get_enabled", serRkOsdGetEnabled⟩,
    ⟨"rk_osd_set_enabled", serRkOsdSetEnabled⟩,
    ⟨"rk_osd_get_position_x", serRkOsdGetPositionX⟩,
    ⟨"rk_osd_set_position_x", serRkOsdSetPositionX⟩,
    ⟨"rk_osd_get_position_y", serRkOsdGetPositionY⟩,
    ⟨"rk_osd_set_position_y", serRkOsdSetPositionY⟩,
    ⟨"rk_osd_get_height", serRkOsdGetHeight⟩,
    ⟨"rk_osd_set_height", serRkOsdSetHeight⟩,
    ⟨"rk_osd_get_width", serRkOsdGetWidth⟩,
    ⟨"rk_osd_set_width", serRkOsdSetWidth⟩,
    ⟨"rk_osd_get_display_week_enabled", serRkOsdGetDisplayWeekEnabled⟩,
    ⟨"rk_osd_set_display_week_enabled", serRkOsdSetDisplayWeekEnabled⟩,
    ⟨"rk_osd_get_date_style", serRkOsdGetDateStyle⟩,
    ⟨"rk_osd_set_date_style", serRkOsdSetDateStyle⟩,
    ⟨"rk_osd_get_time_style", serRkOsdGetTimeStyle⟩,
    ⟨"rk_osd_set_time_style", serRkOsdSetTimeStyle⟩,
    ⟨"rk_osd_get_type", serRkOsdGetType⟩,
    ⟨"rk_osd_set_type", serRkOsdSetType⟩,
    ⟨"rk_osd_get_display_text", serRkOsdGetDisplayText⟩,
    ⟨"rk_osd_set_display_text", serRkOsdSetDisplayText⟩,
    ⟨"rk_osd_get_image_path", serRkOsdGetImagePath⟩,
    ⟨"rk_osd_set_image_path", serRkOsdSetImagePath⟩,
    ⟨"rk_osd_get_style", serRkOsdGetStyle⟩,
    ⟨"rk_osd_set_style", serRkOsdSetStyle⟩,
    ⟨"rk_osd_restart", serRkOsdRestart⟩]

/-! roi.x -/

def serRkRoiGetStreamType : Handler := getStringById "rk_roi_get_stream_type"

def serRkRoiSetStreamType : Handler := setStringById "rk_roi_set_stream_type"

def serRkRoiGetName : Handler := getStringById "rk_roi_get_name"

def serRkRoiSetName : Handler := setStringById "rk_roi_set_name"

def serRkRoiGetId : Handler := getWordById "rk_roi_get_id"

def serRkRoiSetId : Handler := setWordById "rk_roi_set_id"

def serRkRoiGetEnabled : Handler := getWordById "rk_roi_get_enabled"

def serRkRoiSetEnabled : Handler := setWordById "rk_roi_set_enabled"

def serRkRoiGetPositionX : Handler := getWordById "rk_roi_get_position_x"

def serRkRoiSetPositionX : Handler := setWordById "rk_roi_set_position_x"

def serRkRoiGetPositionY : Handler := getWordById "rk_roi_get_position_y"

def serRkRoiSetPositionY : Handler := setWordById "rk_roi_set_position_y"

def serRkRoiGetHeight : Handler := getWordById "rk_roi_get_height"

def serRkRoiSetHeight : Handler := setWordById "rk_roi_set_height"

def serRkRoiGetWidth : Handler := getWordById "rk_roi_get_width"

def serRkRoiSetWidth : Handler := setWordById "rk_roi_set_width"

def serRkRoiGetQualityLevel : Handler := getWordById "rk_roi_get_quality_level"

def serRkRoiSetQualityLevel : Handler := setWordById "rk_roi_set_quality_level"

def serRkRoiSetAll : Handler := replyStatus "rk_roi_set_all" []

def mapRoi : List FunMap := [
    ⟨"rk_roi_get_stream_type", serRkRoiGetStreamType⟩,
    ⟨"rk_roi_set_stream_type", serRkRoiSetStreamType⟩,
    ⟨"rk_roi_get_name", serRkRoiGetName⟩,
    ⟨"rk_roi_set_name", serRkRoiSetName⟩,
    ⟨"rk_roi_get_id", serRkRoiGetId⟩,
    ⟨"rk_roi_set_id", serRkRoiSetId⟩,
    ⟨"rk_roi_get_enabled", serRkRoiGetEnabled⟩,
    ⟨"rk_roi_set_enabled", serRkRoiSetEnabled⟩,
    ⟨"rk_roi_get_position_x", serRkRoiGetPositionX⟩,
    ⟨"rk_roi_set_position_x", serRkRoiSetPositionX⟩,
    ⟨"rk_roi_get_position_y", serRkRoiGetPositionY⟩,
    ⟨"rk_roi_set_position_y", serRkRoiSetPositionY⟩,
    ⟨"rk_roi_get_height", serRkRoiGetHeight⟩,
    ⟨"rk_roi_set_height", serRkRoiSetHeight⟩,
    ⟨"rk_roi_get_width", serRkRoiGetWidth⟩,
    ⟨"rk_roi_set_width", serRkRoiSetWidth⟩,
    ⟨"rk_roi_get_quality_level", serRkRoiGetQualityLevel⟩,
    ⟨"rk_roi_set_quality_level", serRkRoiSetQualityLevel⟩,
    ⟨"rk_roi_set_all", serRkRoiSetAll⟩]

/-! region_clip.x -/

def serRkRegionClipGetEnabled : Handler := getWordById "rk_region_clip_get_enabled"

def serRkRegionClipSetEnabled : Handler := setWordById "rk_region_clip_set_enabled"

def serRkRegionClipGetPositionX : Handler := getWordById "rk_region_clip_get_position_x"

def serRkRegionClipSetPositionX : Handler := setWordById "rk_region_clip_set_position_x"

def serRkRegionClipGetPositionY : Handler := getWordById "rk_region_clip_get_position_y"

def serRkRegionClipSetPositionY : Handler := setWordById "rk_region_clip_set_position_y"

def serRkRegionClipGetHeight : Handler := getWordById "rk_region_clip_get_height"

def serRkRegionClipSetHeight : Handler := setWordById "rk_region_clip_set_height"

def serRkRegionClipGetWidth : Handler := getWordById "rk_region_clip_get_width"

def serRkRegionClipSetWidth : Handler := setWordById "rk_region_clip_set_width"

def serRkRegionClipSetAll : Handler := replyStatus "rk_region_clip_set_all" []

def mapRegionClip : List FunMap := [
    ⟨"rk_region_clip_get_enabled", serRkRegionClipGetEnabled⟩,
    ⟨"rk_region_clip_set_enabled", serRkRegionClipSetEnabled⟩,
    ⟨"rk_region_clip_get_position_x", serRkRegionClipGetPositionX⟩,
    ⟨"rk_region_clip_set_position_x", serRkRegionClipSetPositionX⟩,
    ⟨"rk_region_clip_get_position_y", serRkRegionClipGetPositionY⟩,
    ⟨"rk_region_clip_set_position_y", serRkRegionClipSetPositionY⟩,
    ⟨"rk_region_clip_get_height", serRkRegionClipGetHeight⟩,
    ⟨"rk_region_clip_set_height", serRkRegionClipSetHeight⟩,
    ⟨"rk_region_clip_get_width", serRkRegionClipGetWidth⟩,
    ⟨"rk_region_clip_set_width", serRkRegionClipSetWidth⟩,
    ⟨"rk_region_clip_set_all", serRkRegionClipSetAll⟩]

/-! network -/

def serRkNetworkGetMac : Handler := getStringOfInterface "rk_network_get_mac"

def serRkNetworkNicspeedSupportGet : Handler :=
  getStringOfInterface "rk_network_nicspeed_support_get"

def serRkWifiPowerGet : Handler := replyWord "rk_wifi_power_get" []

def serRkWifiScanWifi : Handler := replyStatus "rk_wifi_scan_wifi" []

def serRkWifiGetList : Handler := replyString "rk_wifi_get_list" []

def mapNetwork : List FunMap := [
    ⟨"rk_network_ipv4_get", serRkNetworkIpv4Get⟩,
    ⟨"rk_network_ipv4_set", serRkNetworkIpv4Set⟩,
    ⟨"rk_network_dns_get", serRkNetworkDnsGet⟩,
    ⟨"rk_network_dns_set", serRkNetworkDnsSet⟩,
    ⟨"rk_network_get_mac", serRkNetworkGetMac⟩,
    ⟨"rk_network_nicspeed_get", serRkNetworkNicspeedGet⟩,
    ⟨"rk_network_nicspeed_set", serRkNetworkNicspeedSet⟩,
    ⟨"rk_network_nicspeed_support_get", serRkNetworkNicspeedSupportGet⟩,
    ⟨"rk_wifi_power_get", serRkWifiPowerGet⟩,
    ⟨"rk_wifi_power_set", serRkWifiPowerSet⟩,
    ⟨"rk_wifi_scan_wifi", serRkWifiScanWifi⟩,
    ⟨"rk_wifi_get_list", serRkWifiGetList⟩,
    ⟨"rk_wifi_connect_with_ssid", serRkWifiConnectWithSsid⟩,
    ⟨"rk_wifi_forget_with_ssid", serRkWifiForgetWithSsid⟩]

/-! storage -/

def serRkStorageRecordStart : Handler := replyStatus "rk_storage_record_start" [.int 0]

def serRkStorageRecordStop : Handler := replyStatus "rk_storage_record_stop" [.int 0]

def serRkStorageRecordStatueGet : Handler :=
  replyWord "rk_storage_record_statue_get" [.int 0]

def serRkTakePhoto : Handler := replyStatus "rk_take_photo" []

def mapStorage : List FunMap := [
    ⟨"rk_storage_record_start", serRkStorageRecordStart⟩,
    ⟨"rk_storage_record_stop", serRkStorageRecordStop⟩,
    ⟨"rk_storage_record_statue_get", serRkStorageRecordStatueGet⟩,
    ⟨"rk_take_photo", serRkTakePhoto⟩]

/-! event -/

def serRkEventRiGetEnabled : Handler := replyWord "rk_event_ri_get_enabled" []

def serRkEventRiSetEnabled : Handler := setWord "rk_event_ri_set_enabled"

def serRkEventRiGetPositionX : Handler := replyWord "rk_event_ri_get_position_x" []

def serRkEventRiSetPositionX : Handler := setWord "rk_event_ri_set_position_x"

def serRkEventRiGetPositionY : Handler := replyWord "rk_event_ri_get_position_y" []

def serRkEventRiSetPositionY : Handler := setWord "rk_event_ri_set_position_y"

def serRkEventRiGetWidth : Handler := replyWord "rk_event_ri_get_width" []

def serRkEventRiSetWidth : Handler := setWord "rk_event_ri_set_width"

def serRkEventRiGetHeight : Handler := replyWord "rk_event_ri_get_height" []

def serRkEventRiSetHeight : Handler := setWord "rk_event_ri_set_height"

def serRkEventRiGetProportion : Handler := replyWord "rk_event_ri_get_proportion" []

def serRkEventRiSetProportion : Handler := setWord "rk_event_ri_set_proportion"

def serRkEventRiGetSensitivityLevel : Handler :=
  replyWord "rk_event_ri_get_sensitivity_level" []

def serRkEventRiSetSensitivityLevel : Handler :=
  setWord "rk_event_ri_set_sensitivity_level"

def serRkEventRiGetTimeThreshold : Handler :=
  replyWord "rk_event_ri_get_time_threshold" []

def serRkEventRiSetTimeThreshold : Handler := setWord "rk_event_ri_set_time_threshold"

def mapEvent : List FunMap := [
    ⟨"rk_event_ri_get_enabled", serRkEventRiGetEnabled⟩,
    ⟨"rk_event_ri_set_enabled", serRkEventRiSetEnabled⟩,
    ⟨"rk_event_ri_get_position_x", serRkEventRiGetPositionX⟩,
    ⟨"rk_event_ri_set_position_x", serRkEventRiSetPositionX⟩,
    ⟨"rk_event_ri_get_position_y", serRkEventRiGetPositionY⟩,
    ⟨"rk_event_ri_set_position_y", serRkEventRiSetPositionY⟩,
    ⟨"rk_event_ri_get_width", serRkEventRiGetWidth⟩,
    ⟨"rk_event_ri_set_width", serRkEventRiSetWidth⟩,
    ⟨"rk_event_ri_get_height", serRkEventRiGetHeight⟩,
    ⟨"rk_event_ri_set_height", serRkEventRiSetHeight⟩,
    ⟨"rk_event_ri_get_proportion", serRkEventRiGetProportion⟩,
    ⟨"rk_event_ri_set_proportion", serRkEventRiSetProportion⟩,
    ⟨"rk_event_ri_get_sensitivity_level", serRkEventRiGetSensitivityLevel⟩,
    ⟨"rk_event_ri_set_sensitivity_level", serRkEventRiSetSensitivityLevel⟩,
    ⟨"rk_event_ri_get_time_threshold", serRkEventRiGetTimeThreshold⟩,
    ⟨"rk_event_ri_set_time_threshold", serRkEventRiSetTimeThreshold⟩]

/-! system -/

def serRkSystemCapabilityGetVideo : Handler := replyArray "rk_system_capability_get_video"

def serRkSystemCapabilityGetImageAdjustment : Handler :=
  replyArray "rk_system_capability_get_image_adjustment"

def serRkSystemCapabilityGetImageBlc : Handler :=
  replyArray "rk_system_capability_get_image_blc"

def serRkSystemCapabilityGetImageEnhancement : Handler :=
  replyArray "rk_system_capability_get_image_enhancement"

def serRkSystemCapabilityGetImageExposure : Handler :=
  replyArray "rk_system_capability_get_image_exposure"

def serRkSystemCapabilityGetImageNightToDay : Handler :=
  replyArray "rk_system_capability_get_image_night_to_day"

def serRkSystemCapabilityGetImageVideoAdjustment : Handler :=
  replyArray "rk_system_capability_get_image_video_adjustment"

def serRkSystemCapabilityGetImageWhiteBlance : Handler :=
  replyArray "rk_system_capability_get_image_white_blance"

def serRkSystemGetDeivceName : Handler := replyString "rk_system_get_deivce_name" []

def serRkSystemGetTelecontrolId : Handler := replyString "rk_system_get_telecontrol_id" []

def serRkSystemGetModel : Handler := replyString "rk_system_get_model" []

def serRkSystemGetSerialNumber : Handler := replyString "rk_system_get_serial_number" []

def serRkSystemGetFirmwareVersion : Handler :=
  replyString "rk_system_get_firmware_version" []

def serRkSystemGetEncoderVersion : Handler :=
  replyString "rk_system_get_encoder_version" []

def serRkSystemGetWebVersion : Handler := replyString "rk_system_get_web_version" []

def serRkSystemGetPluginVersion : Handler := replyString "rk_system_get_plugin_version" []

def serRkSystemGetChannelsNumber : Handler :=
  replyString "rk_system_get_channels_number" []

def serRkSystemGetHardDisksNumber : Handler :=
  replyString "rk_system_get_hard_disks_number" []

def serRkSystemGetAlarmInputsNumber : Handler :=
  replyString "rk_system_get_alarm_inputs_number" []

def serRkSystemGetAlarmOutputsNumber : Handler :=
  replyString "rk_system_get_alarm_outputs_number" []

def serRkSystemGetFirmwareVersionInfo : Handler :=
  replyString "rk_system_get_firmware_version_info" []

def serRkSystemGetManufacturer : Handler := replyString "rk_system_get_manufacturer" []

def serRkSystemGetHardwareId : Handler := replyString "rk_system_get_hardware_id" []

def serRkSystemSetDeivceName : Handler := setString "rk_system_set_deivce_name"

def serRkSystemSetTelecontrolId : Handler := setString "rk_system_set_telecontrol_id"

def serRkSystemReboot : Handler := replyStatus "rk_system_reboot" []

def serRkSystemFactoryReset : Handler := replyStatus "rk_system_factory_reset" []

def serRkSystemExportLog : Handler := setString "rk_system_export_log"

def serRkSystemExportDb : Handler := setString "rk_system_export_db"

def serRkSystemImportDb : Handler := setString "rk_system_import_db"

def serRkSystemUpgrade : Handler := setString "rk_system_upgrade"

def serRkSystemGetUserNum : Handler := replyWord "rk_system_get_user_num" []

def serRkSystemSetUserNum : Handler := setWord "rk_system_set_user_num"

def serRkSystemGetUserLevel : Handler := getWordById "rk_system_get_user_level"

def serRkSystemSetUserLevel : Handler := setWordById "rk_system_set_user_level"

def serRkSystemGetUserName : Handler := getStringById "rk_system_get_user_name"

def serRkSystemSetUserName : Handler := setStringById "rk_system_set_user_name"

def serRkSystemGetPassword : Handler := getStringById "rk_system_get_password"

def serRkSystemSetPassword : Handler := setStringById "rk_system_set_password"

def serRkSystemDelUser : Handler := setWord "rk_system_del_user"

def mapSystem : List FunMap := [
    ⟨"rk_system_capability_get_video", serRkSystemCapabilityGetVideo⟩,
    ⟨"rk_system_capability_get_image_adjustment", serRkSystemCapabilityGetImageAdjustment⟩,
    ⟨"rk_system_capability_get_image_blc", serRkSystemCapabilityGetImageBlc⟩,
    ⟨"rk_system_capability_get_image_enhancement", serRkSystemCapabilityGetImageEnhancement⟩,
    ⟨"rk_system_capability_get_image_exposure", serRkSystemCapabilityGetImageExposure⟩,
    ⟨"rk_system_capability_get_image_night_to_day", serRkSystemCapabilityGetImageNightToDay⟩,
    ⟨"rk_system_capability_get_image_video_adjustment",
      serRkSystemCapabilityGetImageVideoAdjustment⟩,
    ⟨"rk_system_capability_get_image_white_blance", serRkSystemCapabilityGetImageWhiteBlance⟩,
    ⟨"rk_system_get_deivce_name", serRkSystemGetDeivceName⟩,
    ⟨"rk_system_get_telecontrol_id", serRkSystemGetTelecontrolId⟩,
    ⟨"rk_system_get_model", serRkSystemGetModel⟩,
    ⟨"rk_system_get_serial_number", serRkSystemGetSerialNumber⟩,
    ⟨"rk_system_get_firmware_version", serRkSystemGetFirmwareVersion⟩,
    ⟨"rk_system_get_encoder_version", serRkSystemGetEncoderVersion⟩,
    ⟨"rk_system_get_web_version", serRkSystemGetWebVersion⟩,
    ⟨"rk_system_get_plugin_version", serRkSystemGetPluginVersion⟩,
    ⟨"rk_system_get_channels_number", serRkSystemGetChannelsNumber⟩,
    ⟨"rk_system_get_hard_disks_number", serRkSystemGetHardDisksNumber⟩,
    ⟨"rk_system_get_alarm_inputs_number", serRkSystemGetAlarmInputsNumber⟩,
    ⟨"rk_system_get_alarm_outputs_number", serRkSystemGetAlarmOutputsNumber⟩,
    ⟨"rk_system_get_firmware_version_info", serRkSystemGetFirmwareVersionInfo⟩,
    ⟨"rk_system_get_manufacturer", serRkSystemGetManufacturer⟩,
    ⟨"rk_system_get_hardware_id", serRkSystemGetHardwareId⟩,
    ⟨"rk_system_set_deivce_name", serRkSystemSetDeivceName⟩,
    ⟨"rk_system_set_telecontrol_id", serRkSystemSetTelecontrolId⟩,
    ⟨"rk_system_reboot", serRkSystemReboot⟩,
    ⟨"rk_system_factory_reset", serRkSystemFactoryReset⟩,
    ⟨"rk_system_export_log", serRkSystemExportLog⟩,
    ⟨"rk_system_export_db", serRkSystemExportDb⟩,
    ⟨"rk_system_import_db", serRkSystemImportDb⟩,
    ⟨"rk_system_upgrade", serRkSystemUpgrade⟩,
    ⟨"rk_system_get_user_num", serRkSystemGetUserNum⟩,
    ⟨"rk_system_set_user_num", serRkSystemSetUserNum⟩,
    ⟨"rk_system_get_user_level", serRkSystemGetUserLevel⟩,
    ⟨"rk_system_set_user_level", serRkSystemSetUserLevel⟩,
    ⟨"rk_system_get_user_name", serRkSystemGetUserName⟩,
    ⟨"rk_system_set_user_name", serRkSystemSetUserName⟩,
    ⟨"rk_system_get_password", serRkSystemGetPassword⟩,
    ⟨"rk_system_set_password", serRkSystemSetPassword⟩,
    ⟨"rk_system_add_user", serRkSystemAddUser⟩,
    ⟨"rk_system_del_user", serRkSystemDelUser⟩]

/-- `map` of the socket server, in its order. -/
def map : List FunMap :=
  mapGeneral ++ mapIspScenario ++ mapIspAdjustment ++ mapIspExposure ++
    mapIspNightToDay ++ mapIspBlc ++ mapIspWhiteBlance ++
    mapIspEnhancement ++ mapIspVideoAdjustment ++ mapIspAutoFocus ++
    mapAudio ++ mapVideo ++ mapJpeg ++ mapOsdCommon ++ mapOsd ++ mapRoi ++
    mapRegionClip ++ mapNetwork ++ mapStorage ++ mapEvent ++ mapSystem

end Rkipc.Rpc
